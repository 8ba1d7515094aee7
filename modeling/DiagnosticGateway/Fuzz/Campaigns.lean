import DiagnosticGateway.Fuzz.Hunt

/-! The campaigns of the hunter (`ahdg_hunt.c`), at random and guided by coverage.

As new coverage is all that keeps the guided engine from its plateau, and the alphabet
has twenty-four states, it ends without a limit of its own.
-/

set_option autoImplicit false

namespace DiagnosticGateway.Fuzz
open BigEndian Uds Coverage
open Ecu (Model)
open Isotp (maxPayloadSize)

structure Campaign where
  sequences : Nat
  cov : Covered
  cex : Option (Int × List Act)

/-- The loop over `step` of `run_random`; it makes no golden probe. The sequence up to
a violation is kept as it is, before its minimisation. -/
def randomSteps : Nat → Model → UInt32 → List Act → Campaign → UInt32 → Option (Campaign × UInt32)
  | 0, _, _, _, out, rng => some (out, rng)
  | left + 1, m, prev, seq, out, rng =>
    if seq.length < maxSeq then
      let rng := ahdgRngNext rng
      let a := Act.draw rng
      let seq := seq ++ [a]
      let applied := applyAct m a rng
      let fp := fingerprint applied.1.1
      (out.cov.note prev fp applied.1.2.outcome).bind fun noted =>
        let cov := noted.1.deepen seq.length
        if applied.1.2.verdict ≥ 0 then
          some ({ out with cov, cex := out.cex.or (some (applied.1.2.verdict, seq)) }, applied.2)
        else randomSteps left applied.1.1 fp seq { out with cov } applied.2
    else some (out, rng)

/-- The loop over `n`; `expired` tells after which sequence the deadline was found
passed. -/
def randomAll (buffer : Vector UInt8 maxPayloadSize) (depthCap : UInt32) (expired : Nat → Bool) :
    Nat → Campaign → UInt32 → Option Campaign
  | 0, out, _ => some out
  | left + 1, out, rng =>
    let rng := ahdgRngNext rng
    let len := (rng % depthCap).toNat + 1
    let m := Model.init buffer
    (covState out.cov (fingerprint m)).bind fun shown =>
      (randomSteps len m (fingerprint m) [] { out with cov := shown.1 } rng).bind fun ended =>
        let out := { ended.1 with sequences := ended.1.sequences + 1 }
        if expired out.sequences then some out else randomAll buffer depthCap expired left out ended.2

def runRandom (buffer : Vector UInt8 maxPayloadSize) (seed : UInt32) (budget : Nat) (depthCap : UInt32)
    (expired : Nat → Bool) : Option Campaign :=
  randomAll buffer depthCap expired budget ⟨0, covReset, none⟩ (if seed ≠ 0 then seed else 1)

abbrev corpusMax : Nat := 4096

def corpusAdd (corpus : List (List Act)) (seq : List Act) : List (List Act) :=
  if corpus.length ≥ corpusMax then corpus else corpus ++ [seq.take maxSeq]

def doubleBlock (depthCap : Nat) (dst : List Act) (pos blk : Nat) : List Act :=
  let blk := if pos + blk > dst.length then dst.length - pos else blk
  if blk > 0 ∧ dst.length + blk ≤ depthCap then dst.take (pos + blk) ++ dst.drop pos else dst

-- C leaves open which of the two draws of a replacement is made first.
variable (placeFirst : Bool)

/-- One of the five mutations; the last also stands in for one that is not possible. -/
def mutateOnce (depthCap : Nat) (dst : List Act) (rng : UInt32) : List Act × UInt32 :=
  let rng := ahdgRngNext rng
  let op := rng % 5
  let one := ahdgRngNext rng
  let two := ahdgRngNext one
  let len := dst.length.toUInt32
  if op = 0 ∧ dst.length < depthCap then (dst.insertIdx (one % (len + 1)).toNat (Act.draw two), two)
  else if op = 1 ∧ dst.length > 1 then (dst.eraseIdx (one % len).toNat, one)
  else if op = 2 ∧ dst.length > 0 then
    if placeFirst then (dst.set (one % len).toNat (Act.draw two), two)
    else (dst.set (two % len).toNat (Act.draw one), two)
  else if op = 3 ∧ dst.length > 0 ∧ dst.length < depthCap then
    (doubleBlock depthCap dst (one % len).toNat ((two % 4).toNat + 1), two)
  else if dst.length < depthCap then (dst ++ [Act.draw one], one)
  else (dst, rng)

def mutateTimes (depthCap : Nat) : Nat → List Act → UInt32 → List Act × UInt32
  | 0, dst, rng => (dst, rng)
  | muts + 1, dst, rng =>
    let mutated := mutateOnce placeFirst depthCap dst rng
    mutateTimes depthCap muts mutated.1 mutated.2

def mutate (depthCap : Nat) (src : List Act) (rng : UInt32) : List Act × UInt32 :=
  let rng := ahdgRngNext rng
  mutateTimes placeFirst depthCap ((rng % 4).toNat + 1) src rng

abbrev plateauIters : Nat := 300000

structure Guided where
  rng : UInt32
  cov : Covered
  corpus : List (List Act)
  it : Nat
  sinceGain : Nat
  cex : Option (Int × List Act)

def seedCorpus (buffer : Vector UInt8 maxPayloadSize) : Nat → Guided → Option Guided
  | 0, g => some g
  | left + 1, g =>
    let rng := ahdgRngNext g.rng
    let drawn := drawActs ((rng % 8).toNat + 1) rng
    (execSeq buffer drawn.1 g.cov drawn.2).bind fun done =>
      seedCorpus buffer left { g with cov := done.cov, rng := done.rng, corpus := corpusAdd g.corpus drawn.1 }

def nextSequence (depthCap : Nat) (g : Guided) : List Act × UInt32 :=
  let rng := ahdgRngNext g.rng
  match g.corpus with
  | [] => drawActs ((rng % 8).toNat + 1) rng
  | _ :: _ => mutate placeFirst depthCap (g.corpus.getD (rng % g.corpus.length.toUInt32).toNat []) rng

def Guided.record (g : Guided) (tried : List Act) (done : Executed) (found : Bool) : Guided where
  rng := done.rng
  cov := done.cov
  corpus := if done.gained then corpusAdd g.corpus tried else g.corpus
  it := g.it + 1
  sinceGain := if done.gained then 0 else g.sinceGain + 1
  cex := if found then some (done.viol, tried) else g.cex

/-- The main loop. `maxIters` of zero is no limit, and `late` tells after which
iteration the time was found over; `none` is a search without an end, or a loop that is
not over within the fuel. -/
def guidedLoop (buffer : Vector UInt8 maxPayloadSize) (maxIters : Nat) (late : Nat → Bool) (depthCap : Nat)
    (stopOnCex : Bool) : Nat → Guided → Option Guided
  | 0, _ => none
  | fuel + 1, g =>
    if maxIters ≠ 0 ∧ g.it ≥ maxIters then some g
    else
      let tried := nextSequence placeFirst depthCap g
      (execSeq buffer tried.1 g.cov tried.2).bind fun done =>
        let found := decide (done.viol ≥ 0) && g.cex.isNone
        let g := g.record tried.1 done found
        if found && stopOnCex then some g
        else if g.sinceGain ≥ plateauIters then some g
        else if late g.it then some g
        else guidedLoop buffer maxIters late depthCap stopOnCex fuel g

def runGuided (buffer : Vector UInt8 maxPayloadSize) (seed : UInt32) (maxIters : Nat) (late : Nat → Bool) (depthCap : Nat)
    (stopOnCex : Bool) (fuel : Nat) : Option Guided :=
  (seedCorpus buffer 8 ⟨if seed ≠ 0 then seed else 1, covReset, [], 0, 0, none⟩).bind
    (guidedLoop placeFirst buffer maxIters late depthCap stopOnCex fuel)

/-! ## Random campaigns find nothing -/

structure Played (out : Campaign) (length : Nat) (after : Campaign) : Prop where
  charts : Charting after.cov
  clean : after.cex = out.cex
  sequences : after.sequences = out.sequences
  depth : after.cov.maxDepth ≤ max out.cov.maxDepth length
  fits : after.cov.maxDepth ≤ max out.cov.maxDepth maxSeq

theorem randomSteps_played {m : Model} (tethered : Tethered m) (left : Nat) (seq : List Act) {out : Campaign}
    (charting : Charting out.cov) (rng : UInt32) :
    ∃ after rng', randomSteps left m (fingerprint m) seq out rng = some (after, rng') ∧
      Played out (seq.length + left) after := by
  induction left generalizing m seq out rng with
  | zero => exact ⟨out, rng, rfl, charting, rfl, rfl, Nat.le_max_left .., Nat.le_max_left ..⟩
  | succ left ih =>
    rw [randomSteps]
    by_cases room : seq.length < maxSeq
    · rw [if_pos room]
      let drawn := ahdgRngNext rng
      have after := tethered.act (Act.draw drawn) drawn
      have verdict : (applyAct m (Act.draw drawn) drawn).1.2.verdict = -1 := perform_verdict tethered.sane _
      obtain ⟨noted, new, returned, now⟩ := charting.note tethered.fingerprint after.fingerprint
        (applyAct m (Act.draw drawn) drawn).1.2.outcome
      let here : Campaign := { out with cov := noted.deepen (seq ++ [Act.draw drawn]).length }
      obtain ⟨final, rng', ran, later⟩ := ih after (seq ++ [Act.draw drawn])
        (show Charting here.cov from now.charts.deepen _) (applyAct m (Act.draw drawn) drawn).2
      have grown : (seq ++ [Act.draw drawn]).length = seq.length + 1 := List.length_append
      have deepened : here.cov.maxDepth ≤ max out.cov.maxDepth (seq.length + 1) := by
        rw [← now.depth, ← grown]
        exact noted.deepen_le _
      refine ⟨final, rng', ?_, later.charts, later.clean, later.sequences, ?_, ?_⟩
      · dsimp only
        rw [returned, Option.bind_some, if_neg (by rw [verdict]; decide)]
        exact ran
      · have reached := later.depth
        omega
      · have reached := later.fits
        omega
    · rw [if_neg room]
      exact ⟨out, rng, rfl, charting, rfl, rfl, Nat.le_max_left .., Nat.le_max_left ..⟩

theorem covRare_le (cov : Covered) : covRare cov ≤ cov.st.distinct := by
  rw [cov.st.counted, covRare, List.countP_eq_length_filter, ← List.toFinset_card_of_nodup]
  · refine Finset.card_le_card fun slot member => ?_
    rw [List.mem_toFinset, List.mem_filter] at member
    exact mem_occupied.mpr (of_decide_eq_true member.2).1
  · exact (List.nodup_finRange _).filter _

structure Random (budget depthCap : Nat) (out : Campaign) : Prop where
  charts : Charting out.cov
  clean : out.cex = none
  sequences : out.sequences ≤ budget
  depth : out.cov.maxDepth ≤ min depthCap maxSeq

theorem randomAll_random (buffer : Vector UInt8 maxPayloadSize) {depthCap : UInt32} (deep : 0 < depthCap)
    (expired : Nat → Bool) {budget : Nat} (left : Nat) {out : Campaign} (sofar : Random budget depthCap.toNat out)
    (room : out.sequences + left ≤ budget) (rng : UInt32) :
    ∃ final, randomAll buffer depthCap expired left out rng = some final ∧ Random budget depthCap.toNat final ∧
      ((∀ n, expired n = false) → final.sequences = out.sequences + left) := by
  induction left generalizing out rng with
  | zero => exact ⟨out, rfl, sofar, fun _ => rfl⟩
  | succ left ih =>
    have tethered := tethered_init buffer
    obtain ⟨shown, new, returned, now⟩ := sofar.charts.state tethered.fingerprint
    let here : Campaign := { out with cov := shown }
    obtain ⟨after, rng', ran, played⟩ := randomSteps_played tethered (ahdgRngNext rng % depthCap).toNat.succ []
      (show Charting here.cov from now.charts) (ahdgRngNext rng)
    let closed : Campaign := { after with sequences := after.sequences + 1 }
    have count : closed.sequences = out.sequences + 1 := congrArg Nat.succ played.sequences
    have length : (ahdgRngNext rng % depthCap).toNat < depthCap.toNat := by
      rw [UInt32.toNat_mod]
      exact Nat.mod_lt _ (UInt32.lt_iff_toNat_lt.mp deep)
    have depth : closed.cov.maxDepth ≤ min depthCap.toNat maxSeq := by
      have before := sofar.depth
      have reached := played.depth
      have fits := played.fits
      have same : here.cov.maxDepth = out.cov.maxDepth := now.depth
      rw [List.length_nil] at reached
      change after.cov.maxDepth ≤ _
      omega
    have next : Random budget depthCap.toNat closed := ⟨played.charts, played.clean.trans sofar.clean, by omega, depth⟩
    rw [randomAll]
    dsimp only
    rw [returned, Option.bind_some, show _ = some (after, rng') from ran, Option.bind_some]
    by_cases late : expired closed.sequences = true
    · rw [if_pos late]
      exact ⟨closed, rfl, next, fun never => absurd late (by rw [never]; decide)⟩
    · rw [if_neg late]
      obtain ⟨final, rest, random, full⟩ := ih next (by omega) rng'
      refine ⟨final, rest, random, fun never => ?_⟩
      rw [full never]
      omega

/-- A random campaign ends, whatever its seed, budget and deadline. It finds no
violation, and sees no more than the twenty-four states and their transitions. -/
theorem runRandom_assured (buffer : Vector UInt8 maxPayloadSize) (seed depthCap : UInt32) (deep : 0 < depthCap)
    (budget : Nat) (expired : Nat → Bool) :
    ∃ out, runRandom buffer seed budget depthCap expired = some out ∧ out.cex = none ∧ out.cov.st.distinct ≤ 24 ∧
      out.cov.tr.distinct ≤ 576 ∧ covRare out.cov ≤ out.cov.st.distinct ∧
      out.cov.maxDepth ≤ min depthCap.toNat maxSeq ∧ out.sequences ≤ budget ∧
      ((∀ n, expired n = false) → out.sequences = budget) := by
  have empty : Random budget depthCap.toNat ⟨0, covReset, none⟩ :=
    ⟨charting_reset, rfl, Nat.zero_le _, Nat.zero_le _⟩
  obtain ⟨out, ran, random, full⟩ := randomAll_random buffer deep expired budget empty
    (Nat.le_of_eq (Nat.zero_add budget)) (if seed ≠ 0 then seed else 1)
  exact ⟨out, ran, random.clean, random.charts.st_le, random.charts.tr_le, covRare_le out.cov, random.depth,
    random.sequences, fun never => (full never).trans (Nat.zero_add budget)⟩

theorem runRandom_assured_normal : 0 < (8 : UInt32) ∧
    ∃ out, runRandom (.replicate maxPayloadSize 0) 0x000A11CE 1000000 8 (fun _ => false) = some out ∧ out.cex = none ∧
      out.cov.st.distinct ≤ 24 ∧ out.cov.tr.distinct ≤ 576 ∧ covRare out.cov ≤ out.cov.st.distinct ∧
      out.cov.maxDepth ≤ min (8 : UInt32).toNat maxSeq ∧ out.sequences ≤ 1000000 ∧
      ((∀ _ : Nat, false = false) → out.sequences = 1000000) :=
  ⟨by decide, runRandom_assured (.replicate maxPayloadSize 0) 0x000A11CE 8 (by decide) 1000000 fun _ => false⟩

/-! ## Guided campaigns end -/

def Playable (depthCap : Nat) (seq : List Act) : Prop := 0 < seq.length ∧ seq.length ≤ depthCap

theorem drawActs_length (len : Nat) (rng : UInt32) : (drawActs len rng).1.length = len := by
  induction len generalizing rng with
  | zero => rfl
  | succ len ih => rw [drawActs, List.length_cons, ih]

theorem drawActs_playable {depthCap : Nat} (deep : 8 ≤ depthCap) (word rng : UInt32) :
    Playable depthCap (drawActs ((word % 8).toNat + 1) rng).1 := by
  have small : (word % 8).toNat < 8 := by
    rw [UInt32.toNat_mod]
    exact Nat.mod_lt _ (by decide)
  rw [Playable, drawActs_length]
  omega

theorem place_lt {len : Nat} (some : 0 < len) (small : len < 2 ^ 32) (word : UInt32) :
    (word % len.toUInt32).toNat < len := by
  rw [UInt32.toNat_mod, show len.toUInt32.toNat = len from UInt32.toNat_ofNat_of_lt' small]
  exact Nat.mod_lt _ some

theorem doubleBlock_playable {depthCap : Nat} {seq : List Act} (playable : Playable depthCap seq) {pos : Nat}
    (place : pos < seq.length) (blk : Nat) : Playable depthCap (doubleBlock depthCap seq pos blk) := by
  unfold doubleBlock
  dsimp only
  generalize cut : (if pos + blk > seq.length then seq.length - pos else blk) = size
  have bounded : pos + size ≤ seq.length := by
    rw [← cut]
    split <;> omega
  split
  · rw [Playable, List.length_append, List.length_take, List.length_drop]
    omega
  · exact playable

theorem mutateOnce_playable {depthCap : Nat} (fits : depthCap ≤ maxSeq) {seq : List Act} (playable : Playable depthCap seq)
    (rng : UInt32) : Playable depthCap (mutateOnce placeFirst depthCap seq rng).1 := by
  obtain ⟨some, within⟩ := playable
  have limit : maxSeq = 256 := rfl
  let one := ahdgRngNext (ahdgRngNext rng)
  have place := place_lt some (by omega) one
  unfold mutateOnce
  dsimp only
  split
  · rename_i room
    have spot : (one % (seq.length.toUInt32 + 1)).toNat ≤ seq.length := by
      have next : seq.length.toUInt32 + 1 = (seq.length + 1).toUInt32 := (UInt32.ofNat_add ..).symm
      rw [next]
      exact Nat.lt_succ_iff.mp (place_lt (Nat.succ_pos _) (by omega) one)
    rw [Playable, List.length_insertIdx_of_le_length spot]
    omega
  · split
    · rename_i several
      rw [Playable, List.length_eraseIdx_of_lt place]
      omega
    · split
      · split
        · exact ⟨by rwa [List.length_set], by rwa [List.length_set]⟩
        · exact ⟨by rwa [List.length_set], by rwa [List.length_set]⟩
      · split
        · exact doubleBlock_playable ⟨some, within⟩ place _
        · split
          · rename_i room
            rw [Playable, List.length_append, List.length_singleton]
            omega
          · exact ⟨some, within⟩

theorem mutate_playable {depthCap : Nat} (fits : depthCap ≤ maxSeq) {seq : List Act} (playable : Playable depthCap seq)
    (rng : UInt32) : Playable depthCap (mutate placeFirst depthCap seq rng).1 := by
  have general : ∀ (muts : Nat) (seq : List Act) (rng : UInt32), Playable depthCap seq →
      Playable depthCap (mutateTimes placeFirst depthCap muts seq rng).1 := by
    intro muts
    induction muts with
    | zero => exact fun _ _ playable => playable
    | succ muts ih => exact fun seq rng playable => ih _ _ (mutateOnce_playable placeFirst fits playable rng)
  exact general _ _ _ playable

/-- What holds of the guided engine between two iterations. -/
structure Steady (depthCap : Nat) (g : Guided) : Prop where
  charts : Charting g.cov
  corpus : ∀ seq ∈ g.corpus, Playable depthCap seq
  size : g.corpus.length ≤ 8 + g.cov.total
  depth : g.cov.maxDepth ≤ depthCap
  clean : g.cex = none

theorem corpusAdd_playable {depthCap : Nat} (fits : depthCap ≤ maxSeq) {corpus : List (List Act)} {seq : List Act}
    (all : ∀ old ∈ corpus, Playable depthCap old) (playable : Playable depthCap seq) :
    ∀ kept ∈ corpusAdd corpus seq, Playable depthCap kept := by
  unfold corpusAdd
  split
  · exact all
  · intro kept member
    rcases List.mem_append.mp member with old | new
    · exact all kept old
    · rw [List.mem_singleton.mp new, List.take_of_length_le (Nat.le_trans playable.2 fits)]
      exact playable

theorem corpusAdd_length (corpus : List (List Act)) (seq : List Act) :
    (corpusAdd corpus seq).length ≤ corpus.length + 1 := by
  unfold corpusAdd
  split
  · exact Nat.le_succ _
  · rw [List.length_append, List.length_singleton]

theorem seedCorpus_steady (buffer : Vector UInt8 maxPayloadSize) {depthCap : Nat} (deep : 8 ≤ depthCap)
    (fits : depthCap ≤ maxSeq) (left : Nat) {g : Guided} (steady : Steady depthCap g) (few : g.corpus.length + left ≤ 8) :
    ∃ seeded, seedCorpus buffer left g = some seeded ∧ Steady depthCap seeded ∧ seeded.it = g.it ∧
      seeded.sinceGain = g.sinceGain := by
  induction left generalizing g with
  | zero => exact ⟨g, rfl, steady, rfl, rfl⟩
  | succ left ih =>
    let rng := ahdgRngNext g.rng
    let drawn := drawActs ((rng % 8).toNat + 1) rng
    have playable : Playable depthCap drawn.1 := drawActs_playable deep rng rng
    obtain ⟨done, ran, ends⟩ := execSeq_executes buffer drawn.1 steady.charts drawn.2
    have longer := corpusAdd_length g.corpus drawn.1
    have reached := ends.depth
    have before := steady.depth
    have bound := playable.2
    obtain ⟨seeded, rest, steady', it, since⟩ := @ih
      { g with cov := done.cov, rng := done.rng, corpus := corpusAdd g.corpus drawn.1 }
      ⟨ends.charts, corpusAdd_playable fits steady.corpus playable, by dsimp only; omega, by dsimp only; omega, steady.clean⟩
      (by dsimp only; omega)
    refine ⟨seeded, ?_, steady', it, since⟩
    rw [seedCorpus, show execSeq buffer _ g.cov _ = some done from ran, Option.bind_some]
    exact rest

theorem nextSequence_playable {depthCap : Nat} (deep : 8 ≤ depthCap) (fits : depthCap ≤ maxSeq) {g : Guided}
    (steady : Steady depthCap g) : Playable depthCap (nextSequence placeFirst depthCap g).1 := by
  unfold nextSequence
  cases shape : g.corpus with
  | nil => exact drawActs_playable deep _ _
  | cons first rest =>
    have total := steady.charts.total_le
    have size := steady.size
    have filled : 0 < g.corpus.length := by rw [shape]; exact Nat.succ_pos _
    have place := place_lt filled (by omega) (ahdgRngNext g.rng)
    rw [shape] at place
    refine mutate_playable placeFirst fits ?_ _
    rw [List.getD_eq_getElem?_getD, List.getElem?_eq_getElem place, Option.getD_some]
    apply steady.corpus
    rw [shape]
    exact List.getElem_mem place

def Guided.left (g : Guided) : Nat := plateauIters * (600 - g.cov.total) + (plateauIters - g.sinceGain)

def Guided.Done (maxIters : Nat) (late : Nat → Bool) (g : Guided) : Prop :=
  g.sinceGain = plateauIters ∨ maxIters ≠ 0 ∧ g.it ≥ maxIters ∨ late g.it = true

theorem Steady.record {depthCap : Nat} (fits : depthCap ≤ maxSeq) {g : Guided} (steady : Steady depthCap g)
    {tried : List Act} (playable : Playable depthCap tried) {done : Executed}
    (ends : Executes g.cov false tried.length done) : Steady depthCap (g.record tried done false) where
  charts := ends.charts
  corpus := by
    change ∀ seq ∈ (if done.gained then corpusAdd g.corpus tried else g.corpus), Playable depthCap seq
    split
    · exact corpusAdd_playable fits steady.corpus playable
    · exact steady.corpus
  size := by
    have before := steady.size
    have grows := ends.grows
    change (if done.gained then corpusAdd g.corpus tried else g.corpus).length ≤ 8 + done.cov.total
    split
    · rename_i gained
      have more := (ends.gains gained).resolve_left Bool.false_ne_true
      have longer := corpusAdd_length g.corpus tried
      omega
    · omega
  depth := Nat.le_trans ends.depth (Nat.max_le.mpr ⟨steady.depth, playable.2⟩)
  clean := steady.clean

/-- New coverage is bought with a plateau, and every other iteration uses one up. -/
theorem Guided.left_record {g : Guided} (charts : Charting g.cov) (going : g.sinceGain < plateauIters) {tried : List Act}
    {done : Executed} (ends : Executes g.cov false tried.length done) :
    (g.record tried done false).left < g.left ∧ (g.record tried done false).sinceGain ≤ plateauIters := by
  have plateau : plateauIters = 300000 := rfl
  have total := charts.total_le
  have later := ends.charts.total_le
  have grows := ends.grows
  have gains := ends.gains
  change plateauIters * (600 - done.cov.total) + (plateauIters - (if done.gained then 0 else g.sinceGain + 1)) <
      plateauIters * (600 - g.cov.total) + (plateauIters - g.sinceGain) ∧
    (if done.gained then 0 else g.sinceGain + 1) ≤ plateauIters
  rw [plateau] at going ⊢
  split
  · rename_i gained
    have more := (gains gained).resolve_left Bool.false_ne_true
    omega
  · omega

section
variable (buffer : Vector UInt8 maxPayloadSize) (maxIters : Nat) (late : Nat → Bool) {depthCap : Nat} (stopOnCex : Bool)

theorem guidedLoop_ends (deep : 8 ≤ depthCap) (fits : depthCap ≤ maxSeq) (fuel : Nat) {g : Guided}
    (steady : Steady depthCap g) (going : g.sinceGain < plateauIters) (enough : g.left < fuel) :
    ∃ final, guidedLoop placeFirst buffer maxIters late depthCap stopOnCex fuel g = some final ∧ Steady depthCap final ∧
      final.it ≤ g.it + g.left ∧ final.Done maxIters late := by
  induction fuel generalizing g with
  | zero => exact absurd enough (Nat.not_lt_zero _)
  | succ fuel ih =>
    rw [guidedLoop]
    by_cases limit : maxIters ≠ 0 ∧ g.it ≥ maxIters
    · rw [if_pos limit]
      exact ⟨g, rfl, steady, Nat.le_add_right .., .inr (.inl limit)⟩
    · rw [if_neg limit]
      have playable := nextSequence_playable placeFirst deep fits steady
      obtain ⟨done, ran, ends⟩ := execSeq_executes buffer (nextSequence placeFirst depthCap g).1 steady.charts
        (nextSequence placeFirst depthCap g).2
      have missed : (decide (done.viol ≥ 0) && g.cex.isNone) = false := by
        rw [ends.clean]
        rfl
      have next := steady.record fits playable ends
      obtain ⟨nearer, most⟩ := Guided.left_record steady.charts going ends
      have counted : (g.record (nextSequence placeFirst depthCap g).1 done false).it = g.it + 1 := rfl
      dsimp only
      rw [ran, Option.bind_some, missed, Bool.false_and, if_neg Bool.false_ne_true]
      by_cases flat : (g.record (nextSequence placeFirst depthCap g).1 done false).sinceGain ≥ plateauIters
      · rw [if_pos flat]
        exact ⟨_, rfl, next, by omega, .inl (Nat.le_antisymm most flat)⟩
      · rw [if_neg flat]
        by_cases time : late (g.record (nextSequence placeFirst depthCap g).1 done false).it = true
        · rw [if_pos time]
          exact ⟨_, rfl, next, by omega, .inr (.inr time)⟩
        · rw [if_neg time]
          obtain ⟨final, rest, steady', bound, done⟩ := ih next (Nat.lt_of_not_le flat) (by omega)
          exact ⟨final, rest, steady', by omega, done⟩

/-- A guided campaign ends even without a limit: at its plateau, at its number of
iterations or at its time. It finds no violation, and its tables and its corpus never
come near their sizes. -/
theorem runGuided_ends (seed : UInt32) (deep : 8 ≤ depthCap) (fits : depthCap ≤ maxSeq) (fuel : Nat)
    (enough : 180300000 < fuel) :
    ∃ g, runGuided placeFirst buffer seed maxIters late depthCap stopOnCex fuel = some g ∧ g.Done maxIters late ∧
      g.it ≤ 180300000 ∧ g.cex = none ∧ g.cov.st.distinct ≤ 24 ∧ g.cov.tr.distinct ≤ 576 ∧ g.cov.maxDepth ≤ depthCap ∧
      g.corpus.length ≤ 608 ∧ ∀ seq ∈ g.corpus, Playable depthCap seq := by
  obtain ⟨seeded, ran, steady, it, since⟩ := seedCorpus_steady buffer deep fits 8
    (g := ⟨if seed ≠ 0 then seed else 1, covReset, [], 0, 0, none⟩)
    ⟨charting_reset, nofun, Nat.zero_le _, Nat.zero_le _, rfl⟩ (Nat.le_refl _)
  have left : seeded.left ≤ 180300000 := by
    have plateau : plateauIters = 300000 := rfl
    rw [Guided.left, plateau]
    omega
  obtain ⟨final, rest, steady', bound, done⟩ := guidedLoop_ends placeFirst buffer maxIters late stopOnCex deep fits fuel
    steady (since ▸ (by decide : 0 < plateauIters)) (Nat.lt_of_le_of_lt left enough)
  have size := steady'.size
  have total := steady'.charts.total_le
  refine ⟨final, by rw [runGuided, ran, Option.bind_some, rest], done, ?_, steady'.clean, steady'.charts.st_le,
    steady'.charts.tr_le, steady'.depth, by omega, steady'.corpus⟩
  rw [it] at bound
  dsimp only at bound
  omega

end

theorem runGuided_ends_extreme : 8 ≤ 256 ∧ 256 ≤ maxSeq ∧ 180300000 < 180300001 ∧
    ∃ g, runGuided true (.replicate maxPayloadSize 0) 0x71C493DE 0 (fun _ => false) 256 true 180300001 = some g ∧
      g.Done 0 (fun _ => false) ∧ g.it ≤ 180300000 ∧ g.cex = none ∧ g.cov.st.distinct ≤ 24 ∧
      g.cov.tr.distinct ≤ 576 ∧ g.cov.maxDepth ≤ 256 ∧ g.corpus.length ≤ 608 ∧ ∀ seq ∈ g.corpus, Playable 256 seq :=
  ⟨by decide, by decide, by decide, runGuided_ends true (.replicate maxPayloadSize 0) 0 (fun _ => false) true 0x71C493DE
    (by decide) (by decide) 180300001 (by decide)⟩

end DiagnosticGateway.Fuzz
