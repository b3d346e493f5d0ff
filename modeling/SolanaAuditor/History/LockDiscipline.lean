/- SolanaAuditor/History/LockDiscipline
   digest: Interleaved runs of audit_history_add, and what each may do to the shared files. -/

import SolanaAuditor.History.SoloRun
import SolanaAuditor.Lib.RelyGuarantee

set_option autoImplicit false
set_option relaxedAutoImplicit false

/-!
The runs share the files and perform one file-level operation at a time. Each has its
own lock timeout, so the timeout may fire at any waiting step. No operation fails.
The log of lock events only records what the runs did; no run reads it.
-/

namespace SolanaAuditor.History

open SolanaAuditor.Lib SolanaAuditor.Lib.Shell SolanaAuditor.Lib.RelyGuarantee

variable {ι : Type} [DecidableEq ι]

inductive LockEvent
  | taken | dropped
  deriving DecidableEq

/-- The files, and which run created or removed the lock, newest first. -/
structure World (ι : Type) where
  fs : FS
  log : List (ι × LockEvent)

def lockEvent : FileOp → Option LockEvent
  | .echo .lock _ => some .taken
  | .rm .lock => some .dropped
  | _ => none

def World.answer (i : ι) (w : World ι) (o : FileOp) : FileReply o × World ι :=
  ((History.answer .none w.fs o).1,
    { fs := (History.answer .none w.fs o).2
      log := match lockEvent o with
        | some e => (i, e) :: w.log
        | none => w.log })

/-- The last lock event of run `i` is its creation of the lock. -/
def holdsLock : List (ι × LockEvent) → ι → Bool
  | [], _ => false
  | (j, e) :: log, i => if j = i then e == .taken else holdsLock log i

/-- Run `i` is between the success of `_acquire_lock` and its `_release_lock`. -/
def InCriticalSection (c : Config ι FileOp FileReply Nat (World ι)) (i : ι) : Prop :=
  (∃ o k, c.procs i = .act o k) ∧ holdsLock c.shared.log i = true

def startRuns (parse : String → Option (List Json)) (calls : ι → AddCall) (s : FS) :
    Config ι FileOp FileReply Nat (World ι) :=
  { procs := fun i => auditHistoryAdd parse (calls i), shared := { fs := s, log := [] } }

/-- No lock is created over a lock and no empty history over a history: nothing came
between the test of a run and its creation. -/
def CreatesAbsentFile (_ : ι) (w : World ι) : FileOp → Prop
  | .echo f _ => w.fs.file f = none
  | _ => True

instance (i : ι) (w : World ι) (o : FileOp) : Decidable (CreatesAbsentFile i w o) :=
  match o with
  | .echo f _ => decidable_of_iff ((w.fs.file f).isNone = true) Option.isNone_iff_eq_none
  | .test _ | .mktemp | .read _ | .write _ _ | .mv _ _ | .rm _ => isTrue trivial

/-- The record that a call builds, if it builds one. -/
def recordOf (parse : String → Option (List Json)) (c : AddCall) : Option Json :=
  (parse (echoArg c.findingsJson)).bind (auditEntry c)

section Discipline

variable (parse : String → Option (List Json)) (calls : ι → AddCall) (s₀ : FS)

/-- At most one run holds the lock, a held lock is a file, and the history is well formed
with no records but the old ones and those of the runs. -/
structure Inv (w : World ι) : Prop where
  unique : ∀ i j, holdsLock w.log i = true → holdsLock w.log j = true → i = j
  locked : ∀ i, holdsLock w.log i = true → w.fs.file .lock ≠ none
  history : ∀ docs, w.fs.file .history = some docs → ∃ doc, docs = [doc] ∧
    WellFormedHistory doc ∧ ∀ pid, ∀ a ∈ auditsOf doc pid, a ∈ storeOf s₀ pid ∨
      ∃ i, pid = (calls i).programId ∧ recordOf parse (calls i) = some a

/-- What a step of run `i` may do: a run outside its critical section touches neither an
existing history nor a temporary file, and no run loses a record. -/
structure Guar (i : ι) (w w' : World ι) : Prop where
  others : ∀ j, j ≠ i → holdsLock w'.log j = holdsLock w.log j
  kept : w.fs.file .history ≠ none → w'.fs.file .history ≠ none
  outside : holdsLock w.log i = false →
    (w.fs.file .history ≠ none → w'.fs.file .history = w.fs.file .history) ∧
      ∀ n, w'.fs.file (.temp n) = w.fs.file (.temp n)
  grows : ∀ pid, ∀ a ∈ storeOf w.fs pid, a ∈ storeOf w'.fs pid

def lockDiscipline : Discipline ι FileOp (World ι) where
  inv := Inv parse calls s₀
  guard := CreatesAbsentFile
  guar := Guar

/-- The pair of run `i` is stored, by its own record unless it was there at the start. -/
def Stored (i : ι) (w : World ι) : Prop :=
  KeyedLog.Has versionOf (storeOf w.fs) (calls i).programId (some (calls i).version) ∧
    (KeyedLog.Has versionOf (storeOf s₀) (calls i).programId (some (calls i).version) ∨
      ∃ a, recordOf parse (calls i) = some a ∧ a ∈ storeOf w.fs (calls i).programId)

/-- Run `i` has seen a history and does not hold the lock. -/
def Ready (i : ι) (w : World ι) : Prop :=
  holdsLock w.log i = false ∧ w.fs.file .history ≠ none

/-- Run `i` holds the lock and the history is `doc`. -/
def Inside (i : ι) (doc : Json) (w : World ι) : Prop :=
  holdsLock w.log i = true ∧ w.fs.file .history = some [doc]

/-- It also has a temporary file with the content `c`. -/
def InsideTemp (i : ι) (doc : Json) (tmp : Nat) (c : Content) (w : World ι) : Prop :=
  Inside i doc w ∧ w.fs.file (.temp tmp) = some c

/-- Run `i` holds the lock. -/
def Critical (i : ι) (w : World ι) : Prop := ∃ doc, Inside i doc w

end Discipline

abbrev LockTriple (parse : String → Option (List Json)) (calls : ι → AddCall) (s₀ : FS) (i : ι)
    (A : World ι → Prop) (x : FileScript Nat) (Q : Ending Nat → World ι → Prop) : Prop :=
  Triple World.answer (lockDiscipline parse calls s₀) i A x Q

section Stability

variable {parse : String → Option (List Json)} {calls : ι → AddCall} {s₀ : FS} {i : ι}

theorem outside_stable :
    Stable (lockDiscipline parse calls s₀) i (fun w => holdsLock w.log i = false) := by
  intro j hj w w' _ _ h hg
  exact (hg.others i (Ne.symm hj)).trans h

theorem ready_stable : Stable (lockDiscipline parse calls s₀) i (Ready i) := by
  intro j hj w w' _ _ h hg
  exact ⟨(hg.others i (Ne.symm hj)).trans h.1, hg.kept h.2⟩

/-- While run `i` holds the lock, every other run is outside its critical section. -/
theorem insideTemp_stable (doc : Json) (tmp : Nat) (c : Content) :
    Stable (lockDiscipline parse calls s₀) i (InsideTemp i doc tmp c) := by
  intro j hj w w' hw _ ⟨⟨hl, hh⟩, ht⟩ hg
  have hout : holdsLock w.log j = false := by
    by_contra hn
    exact hj (hw.unique j i (by simpa using hn) hl)
  obtain ⟨hhist, htemp⟩ := hg.outside hout
  exact ⟨⟨(hg.others i (Ne.symm hj)).trans hl, (hhist (by simp [hh])).trans hh⟩,
    (htemp tmp).trans ht⟩

theorem inside_stable (doc : Json) :
    Stable (lockDiscipline parse calls s₀) i (Inside i doc) := by
  intro j hj w w' hw _ ⟨hl, hh⟩ hg
  have hout : holdsLock w.log j = false := by
    by_contra hn
    exact hj (hw.unique j i (by simpa using hn) hl)
  exact ⟨(hg.others i (Ne.symm hj)).trans hl,
    ((hg.outside hout).1 (by simp [hh])).trans hh⟩

omit [DecidableEq ι] in
theorem has_grows {w w' : World ι} (hg : ∀ pid, ∀ a ∈ storeOf w.fs pid, a ∈ storeOf w'.fs pid)
    {pid ver : String} (h : KeyedLog.Has versionOf (storeOf w.fs) pid (some ver)) :
    KeyedLog.Has versionOf (storeOf w'.fs) pid (some ver) := by
  obtain ⟨a, ha, hv⟩ := h
  exact ⟨a, hg pid a ha, hv⟩

omit [DecidableEq ι] in
theorem Stored.grows {w w' : World ι}
    (hg : ∀ pid, ∀ a ∈ storeOf w.fs pid, a ∈ storeOf w'.fs pid)
    (h : Stored parse calls s₀ i w) : Stored parse calls s₀ i w' :=
  ⟨has_grows hg h.1, h.2.imp id fun ⟨a, hr, ha⟩ => ⟨a, hr, hg _ a ha⟩⟩

theorem stored_stable :
    Stable (lockDiscipline parse calls s₀) i (Stored parse calls s₀ i) :=
  fun _ _ _ _ _ _ h hg => h.grows hg.grows

end Stability

/-! Operations that leave the history, the lock and the log alone keep the invariant and
the guarantee; so the walk below only has to look at the others. -/

section Quiet

variable {parse : String → Option (List Json)} {calls : ι → AddCall} {s₀ : FS} {i : ι}

omit [DecidableEq ι] in
theorem storeOf_congr {s t : FS} (h : s.file .history = t.file .history) :
    storeOf s = storeOf t := by simp [storeOf, h]

theorem Inv.congr {w w' : World ι} (h : Inv parse calls s₀ w) (hlog : w'.log = w.log)
    (hlock : w'.fs.file .lock = w.fs.file .lock)
    (hhist : w'.fs.file .history = w.fs.file .history) : Inv parse calls s₀ w' where
  unique := by rw [hlog]; exact h.unique
  locked := by rw [hlog, hlock]; exact h.locked
  history := by rw [hhist]; exact h.history

theorem guar_congr {w w' : World ι} (hlog : w'.log = w.log)
    (hhist : w'.fs.file .history = w.fs.file .history)
    (htemp : holdsLock w.log i = false → ∀ n, w'.fs.file (.temp n) = w.fs.file (.temp n)) :
    Guar i w w' where
  others := fun j _ => by rw [hlog]
  kept := by rw [hhist]; exact id
  outside := fun h => ⟨fun _ => hhist, htemp h⟩
  grows := fun pid a ha => by rwa [storeOf_congr hhist]

theorem triple_look {A : World ι → Prop} {o : FileOp} {k : FileReply o → FileScript Nat}
    {Q : Ending Nat → World ι → Prop} (hq : ∀ w : World ι, (World.answer i w o).2 = w)
    (h : ∀ w, Inv parse calls s₀ w → A w →
      ∃ B, Stable (lockDiscipline parse calls s₀) i B ∧ B w ∧
        LockTriple parse calls s₀ i B (k (World.answer i w o).1) Q) :
    LockTriple parse calls s₀ i A (.act o k) Q := by
  intro w hw hA _
  rw [hq w]
  exact ⟨hw, guar_congr rfl rfl (fun _ _ => rfl), h w hw hA⟩

/-- The holder of the lock works on temporary files. -/
theorem triple_private {A : World ι → Prop} {o : FileOp} {k : FileReply o → FileScript Nat}
    {Q : Ending Nat → World ι → Prop} (hlog : ∀ w : World ι, (World.answer i w o).2.log = w.log)
    (hlock : ∀ w : World ι, (World.answer i w o).2.fs.file .lock = w.fs.file .lock)
    (hhist : ∀ w : World ι, (World.answer i w o).2.fs.file .history = w.fs.file .history)
    (hA : ∀ w, A w → holdsLock w.log i = true)
    (h : ∀ w, Inv parse calls s₀ w → A w →
      ∃ B, Stable (lockDiscipline parse calls s₀) i B ∧ B (World.answer i w o).2 ∧
        LockTriple parse calls s₀ i B (k (World.answer i w o).1) Q) :
    LockTriple parse calls s₀ i A (.act o k) Q := by
  intro w hw hAw _
  refine ⟨hw.congr (hlog w) (hlock w) (hhist w),
    guar_congr (hlog w) (hhist w) (fun hn => ?_), h w hw hAw⟩
  rw [hA w hAw] at hn
  simp at hn

end Quiet

section Steps

variable {parse : String → Option (List Json)} {calls : ι → AddCall} {s₀ : FS} {i : ι}

theorem echo_history_step {w : World ι} (hw : Inv parse calls s₀ w)
    (hnone : w.fs.file .history = none) :
    Inv parse calls s₀ (World.answer i w (.echo .history [emptyHistory])).2 ∧
      Guar i w (World.answer i w (.echo .history [emptyHistory])).2 := by
  constructor
  · refine ⟨hw.unique, fun j hj => ?_, fun docs hdocs => ⟨emptyHistory, ?_, ?_, ?_⟩⟩
    · simpa [World.answer, answer] using hw.locked j hj
    · simpa [World.answer, answer, eq_comm] using hdocs
    · exact emptyHistory_wellFormed
    · simp [auditsOf_emptyHistory]
  · refine ⟨fun _ _ => rfl, fun h => absurd hnone h, fun _ => ⟨fun h => absurd hnone h, ?_⟩, ?_⟩
    · intro n
      simp [World.answer, answer]
    · intro pid a ha
      simp [storeOf_none hnone] at ha

theorem echo_lock_step {w : World ι} (hw : Inv parse calls s₀ w)
    (hnone : w.fs.file .lock = none) :
    Inv parse calls s₀ (World.answer i w (.echo .lock [])).2 ∧
      Guar i w (World.answer i w (.echo .lock [])).2 := by
  have hfree : ∀ j, holdsLock w.log j = true → False := fun j hj => hw.locked j hj hnone
  have hself : ∀ j, holdsLock ((i, LockEvent.taken) :: w.log) j = true → j = i := by
    intro j hj
    by_contra hn
    exact hfree j (by simpa [holdsLock, Ne.symm hn] using hj)
  constructor
  · refine ⟨fun j k hj hk => (hself j hj).trans (hself k hk).symm, fun j _ => ?_, ?_⟩
    · simp [World.answer, answer]
    · simpa [World.answer, answer] using hw.history
  · refine ⟨fun j hj => ?_, ?_, fun _ => ⟨fun _ => ?_, fun n => ?_⟩, fun pid a ha => ?_⟩
    · simp [World.answer, lockEvent, holdsLock, Ne.symm hj]
    · simp [World.answer, answer]
    · simp [World.answer, answer]
    · simp [World.answer, answer]
    · rwa [storeOf_congr (t := w.fs) (by simp [World.answer, answer])]

theorem rm_lock_step {w : World ι} (hw : Inv parse calls s₀ w)
    (hlock : holdsLock w.log i = true) :
    Inv parse calls s₀ (World.answer i w (.rm .lock)).2 ∧
      Guar i w (World.answer i w (.rm .lock)).2 := by
  have hfree : ∀ j, holdsLock ((i, LockEvent.dropped) :: w.log) j = true → False := by
    intro j hj
    by_cases hji : i = j
    · simp [holdsLock, hji] at hj
    · exact hji (hw.unique i j hlock (by simpa [holdsLock, hji] using hj))
  constructor
  · refine ⟨fun j _ hj _ => (hfree j hj).elim, fun j hj => (hfree j hj).elim, ?_⟩
    simpa [World.answer, answer] using hw.history
  · refine ⟨fun j hj => ?_, ?_, fun h => ?_, fun pid a ha => ?_⟩
    · simp [World.answer, lockEvent, holdsLock, Ne.symm hj]
    · simp [World.answer, answer]
    · rw [hlock] at h
      simp at h
    · rwa [storeOf_congr (t := w.fs) (by simp [World.answer, answer])]

/-- The rename that puts a document with the run's own record in place of the history. -/
theorem mv_history_step {w : World ι} (hw : Inv parse calls s₀ w) {doc doc' a : Json}
    {tmp : Nat} (hin : InsideTemp i doc tmp [doc'] w)
    (hrec : recordOf parse (calls i) = some a)
    (happ : Appended doc (calls i).programId a doc') :
    Inv parse calls s₀ (World.answer i w (.mv (.temp tmp) .history)).2 ∧
      Guar i w (World.answer i w (.mv (.temp tmp) .history)).2 ∧
      Inside i doc' (World.answer i w (.mv (.temp tmp) .history)).2 := by
  obtain ⟨⟨hlock, hdoc⟩, htemp⟩ := hin
  have hafter : (World.answer i w (.mv (.temp tmp) .history)).2 =
      { fs := w.fs.move (.temp tmp) .history [doc'], log := w.log } := by
    simp [World.answer, answer, htemp, lockEvent]
  have hhist : (w.fs.move (.temp tmp) .history [doc']).file .history = some [doc'] := by
    simp [FS.move]
  obtain ⟨docs, hdocs, -, hold⟩ := hw.history _ hdoc
  rw [List.cons.injEq] at hdocs
  obtain ⟨rfl, -⟩ := hdocs
  rw [hafter]
  refine ⟨⟨hw.unique, fun j hj => ?_, fun docs hd => ?_⟩, ⟨fun _ _ => rfl, ?_, ?_, ?_⟩,
    hlock, hhist⟩
  · simpa [FS.move] using hw.locked j hj
  · rw [hhist, Option.some.injEq] at hd
    refine ⟨doc', hd.symm, happ.1, fun pid b hb => ?_⟩
    rw [happ.2] at hb
    by_cases hp : pid = (calls i).programId
    · subst pid
      rw [Function.update_self, List.mem_append, List.mem_singleton] at hb
      rcases hb with hb | rfl
      · exact hold _ b hb
      · exact Or.inr ⟨i, rfl, hrec⟩
    · rw [Function.update_of_ne hp] at hb
      exact hold pid b hb
  · simp [hhist]
  · intro h
    simp [hlock] at h
  · intro pid b hb
    rw [storeOf_some hdoc] at hb
    rw [storeOf_some hhist, happ.2]
    by_cases hp : pid = (calls i).programId
    · subst pid
      rw [Function.update_self]
      exact List.mem_append_left _ hb
    · rwa [Function.update_of_ne hp]

end Steps

end SolanaAuditor.History
