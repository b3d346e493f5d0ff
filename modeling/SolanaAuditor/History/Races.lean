/- SolanaAuditor/History/Races
   digest: Calls of audit-history.sh in any interleaving: the history stays well formed. -/

import SolanaAuditor.History.Sessions
import SolanaAuditor.History.Concurrency

set_option autoImplicit false
set_option relaxedAutoImplicit false

/-!
The test of the lock and its creation are two operations, so two adds may both believe that
they hold it. Nothing is assumed of the schedule here.
-/

namespace SolanaAuditor.History

open SolanaAuditor.Lib SolanaAuditor.Lib.Shell SolanaAuditor.Lib.Stopping
  SolanaAuditor.Lib.RelyGuarantee

variable {ι : Type}

section Defs

/-- One process: a call and its arguments. -/
inductive Request
  | init
  | add (c : AddCall)
  | get (programId version : String) (jqBin : Bool)

/-- The status of the call and what it prints. -/
def Request.script (parse : String → Option (List Json)) :
    Request → FileScript (Nat × List Json)
  | .init => do return (← auditHistoryInit, [])
  | .add c => do return (← auditHistoryAdd parse c, [])
  | .get programId version jqBin => auditHistoryGet programId version jqBin

/-- The files, which process made each temporary file, and which processes have renamed one
over the history. No process reads the two records. -/
structure Shared (ι : Type) where
  fs : FS
  maker : Nat → Option ι
  renamed : List ι

def Shared.answer (i : ι) (w : Shared ι) (o : FileOp) : FileReply o × Shared ι :=
  ((History.answer .none w.fs o).1,
    { fs := (History.answer .none w.fs o).2
      maker := match o with
        | .mktemp => Function.update w.maker w.fs.next (some i)
        | _ => w.maker
      renamed := match o with
        | .mv _ _ => i :: w.renamed
        | _ => w.renamed })

def startRequests (parse : String → Option (List Json)) (requests : ι → Request) (s : FS) :
    Config ι FileOp FileReply (Nat × List Json) (Shared ι) :=
  { procs := fun i => (requests i).script parse
    shared := { fs := s, maker := fun _ => none, renamed := [] } }

variable (parse : String → Option (List Json)) (requests : ι → Request) (s₀ : FS)

/-- The record is the one that process `i` adds to the program. -/
def AddedBy (i : ι) (pid : String) (a : Json) : Prop :=
  ∃ c, requests i = .add c ∧ c.programId = pid ∧ recordOf parse c = some a

/-- A history that has no version twice, all audits of the start, and beside them only records
of the processes in `authors`. -/
structure Legit (authors : ι → Prop) (doc : Json) : Prop where
  wellFormed : WellFormedHistory doc
  distinct : KeyedLog.Distinct versionOf (auditsOf doc)
  kept : ∀ pid, ∀ a ∈ storeOf s₀ pid, a ∈ auditsOf doc pid
  authored : ∀ pid, ∀ a ∈ auditsOf doc pid,
    a ∈ storeOf s₀ pid ∨ ∃ i, authors i ∧ AddedBy parse requests i pid a

/-- What holds between any two operations. -/
structure Sane (w : Shared ι) : Prop where
  history : ∀ docs, w.fs.file .history = some docs →
    ∃ doc, docs = [doc] ∧ Legit parse requests s₀ (· ∈ w.renamed) doc
  present : s₀.file .history ≠ none → w.fs.file .history ≠ none
  unmade : ∀ n, w.fs.next ≤ n → w.maker n = none

/-- What an operation of process `i` may do to the others. -/
structure Spares (i : ι) (w w' : Shared ι) : Prop where
  present : w.fs.file .history ≠ none → w'.fs.file .history ≠ none
  temps : ∀ j n, j ≠ i → w.maker n = some j →
    w'.maker n = some j ∧ w'.fs.file (.temp n) = w.fs.file (.temp n)
  renamed : ∀ j, j ≠ i → (j ∈ w'.renamed ↔ j ∈ w.renamed)
  grown : ∀ j ∈ w.renamed, j ∈ w'.renamed

/-- No order of operations is excluded. -/
def anyOrder : Discipline ι FileOp (Shared ι) where
  inv := Sane parse requests s₀
  guard := fun _ _ _ => True
  guar := Spares

/-- Process `i` has not renamed anything over the history. -/
def Waiting (i : ι) (w : Shared ι) : Prop := i ∉ w.renamed

/-- It has also seen a history. -/
def Present (i : ι) (w : Shared ι) : Prop := Waiting i w ∧ w.fs.file .history ≠ none

/-- It has also made the temporary file. -/
def Made (i : ι) (tmp : Nat) (w : Shared ι) : Prop := Present i w ∧ w.maker tmp = some i

/-- It has also put a history into it. -/
def Prepared (i : ι) (tmp : Nat) (doc : Json) (w : Shared ι) : Prop :=
  Made i tmp w ∧ w.fs.file (.temp tmp) = some [doc] ∧
    Legit parse requests s₀ (fun j => j ∈ w.renamed ∨ j = i) doc

end Defs

abbrev RaceTriple {α : Type} (parse : String → Option (List Json)) (requests : ι → Request)
    (s₀ : FS) (i : ι) (A : Shared ι → Prop) (x : FileScript α)
    (Q : Ending α → Shared ι → Prop) : Prop :=
  Triple Shared.answer (anyOrder parse requests s₀) i A x Q

section Stability

variable {parse : String → Option (List Json)} {requests : ι → Request} {s₀ : FS} {i : ι}

theorem Legit.mono {P Q : ι → Prop} {doc : Json} (h : Legit parse requests s₀ P doc)
    (hPQ : ∀ j, P j → Q j) : Legit parse requests s₀ Q doc where
  wellFormed := h.wellFormed
  distinct := h.distinct
  kept := h.kept
  authored := fun pid a ha => (h.authored pid a ha).imp id
    fun ⟨j, hj, hadd⟩ => ⟨j, hPQ j hj, hadd⟩

theorem waiting_stable : Stable (anyOrder parse requests s₀) i (Waiting i) :=
  fun _ hj _ _ _ _ h hg => mt (hg.renamed i (Ne.symm hj)).mp h

theorem present_stable : Stable (anyOrder parse requests s₀) i (Present i) :=
  fun j hj w w' hw hw' h hg => ⟨waiting_stable j hj w w' hw hw' h.1 hg, hg.present h.2⟩

theorem made_stable (tmp : Nat) : Stable (anyOrder parse requests s₀) i (Made i tmp) :=
  fun j hj w w' hw hw' h hg =>
    ⟨present_stable j hj w w' hw hw' h.1 hg, (hg.temps i tmp (Ne.symm hj) h.2).1⟩

theorem prepared_stable (tmp : Nat) (doc : Json) :
    Stable (anyOrder parse requests s₀) i (Prepared parse requests s₀ i tmp doc) := by
  intro j hj w w' hw hw' h hg
  refine ⟨made_stable tmp j hj w w' hw hw' h.1 hg, ?_, ?_⟩
  · exact (hg.temps i tmp (Ne.symm hj) h.1.2).2.trans h.2.1
  · exact h.2.2.mono fun k hk => hk.imp (hg.grown k) id

end Stability

/-! The operations of one process, as the others see them. -/

section Operations

variable {parse : String → Option (List Json)} {requests : ι → Request} {s₀ : FS} {i : ι}
  {w : Shared ι}

/-- An operation on the lock or on the process's own temporary files. -/
def Local (i : ι) (w : Shared ι) : FileOp → Prop
  | .test _ | .mktemp | .read _ => True
  | .echo f _ => f = .lock
  | .rm f => f = .lock ∨ ∃ n, f = .temp n ∧ w.maker n = some i
  | .write f _ => ∃ n, f = .temp n ∧ w.maker n = some i
  | .mv _ _ => False

/-- A step that leaves the history alone, and the files that other processes made. -/
theorem quiet_step {w' : Shared ι} (hw : Sane parse requests s₀ w)
    (hhist : w'.fs.file .history = w.fs.file .history) (hren : w'.renamed = w.renamed)
    (hmaker : ∀ n j, w.maker n = some j → w'.maker n = some j)
    (hunmade : ∀ n, w'.fs.next ≤ n → w'.maker n = none)
    (htemp : ∀ j n, j ≠ i → w.maker n = some j →
      w'.fs.file (.temp n) = w.fs.file (.temp n)) :
    Sane parse requests s₀ w' ∧ Spares i w w' := by
  refine ⟨⟨?_, ?_, hunmade⟩, ⟨?_, fun j n hj hn => ⟨hmaker n j hn, htemp j n hj hn⟩, ?_, ?_⟩⟩
  · rw [hhist, hren]
    exact hw.history
  · rw [hhist]
    exact hw.present
  · rw [hhist]
    exact id
  · rw [hren]
    exact fun _ _ => Iff.rfl
  · rw [hren]
    exact fun _ hj => hj

theorem Local.step {o : FileOp} (hw : Sane parse requests s₀ w) (ho : Local i w o) :
    Sane parse requests s₀ (Shared.answer i w o).2 ∧ Spares i w (Shared.answer i w o).2 ∧
      (Shared.answer i w o).2.fs.file .history = w.fs.file .history ∧
      (Shared.answer i w o).2.renamed = w.renamed ∧
      ∀ n j, w.maker n = some j → (Shared.answer i w o).2.maker n = some j := by
  have hassemble : ∀ {w' : Shared ι}, w'.fs.file .history = w.fs.file .history →
      w'.renamed = w.renamed → (∀ n j, w.maker n = some j → w'.maker n = some j) →
      (∀ n, w'.fs.next ≤ n → w'.maker n = none) →
      (∀ j n, j ≠ i → w.maker n = some j →
        w'.fs.file (.temp n) = w.fs.file (.temp n)) →
      Sane parse requests s₀ w' ∧ Spares i w w' ∧ w'.fs.file .history = w.fs.file .history ∧
        w'.renamed = w.renamed ∧ ∀ n j, w.maker n = some j → w'.maker n = some j :=
    fun hhist hren hmaker hunmade htemp =>
      have hstep := quiet_step hw hhist hren hmaker hunmade htemp
      ⟨hstep.1, hstep.2, hhist, hren, hmaker⟩
  -- a file of another process has another number
  have hother : ∀ {tmp n : Nat} {j : ι}, w.maker tmp = some i → j ≠ i → w.maker n = some j →
      File.temp n ≠ File.temp tmp := by
    rintro tmp n j htmp hj hn ⟨⟩
    rw [htmp, Option.some.injEq] at hn
    exact hj hn.symm
  cases o with
  | test f => exact hassemble rfl rfl (fun _ _ h => h) hw.unmade (fun _ _ _ _ => rfl)
  | read f => exact hassemble rfl rfl (fun _ _ h => h) hw.unmade (fun _ _ _ _ => rfl)
  | mktemp =>
    have hold : ∀ n j, w.maker n = some j → n ≠ w.fs.next := by
      rintro n j hn rfl
      rw [hw.unmade _ (le_refl _)] at hn
      simp at hn
    refine hassemble (by simp [Shared.answer, answer]) rfl (fun n j hn => ?_) (fun n hn => ?_)
      (fun j n _ hn => ?_)
    · simpa [Shared.answer, Function.update_of_ne (hold n j hn)] using hn
    · have hlt : w.fs.next + 1 ≤ n := by simpa [Shared.answer, answer] using hn
      have hne : n ≠ w.fs.next := by omega
      simpa [Shared.answer, Function.update_of_ne hne] using hw.unmade n (by omega)
    · simp [Shared.answer, answer, FS.fresh, hold n j hn]
  | echo f c =>
    obtain rfl : f = .lock := ho
    exact hassemble (by simp [Shared.answer, answer]) rfl (fun _ _ h => h) hw.unmade
      (fun _ _ _ _ => by simp [Shared.answer, answer])
  | rm f =>
    rcases ho with rfl | ⟨tmp, rfl, htmp⟩
    · exact hassemble (by simp [Shared.answer, answer]) rfl (fun _ _ h => h) hw.unmade
        (fun _ _ _ _ => by simp [Shared.answer, answer])
    · exact hassemble (by simp [Shared.answer, answer]) rfl (fun _ _ h => h) hw.unmade
        (fun j n hj hn => FS.del_of_ne _ (hother htmp hj hn))
  | write f c =>
    obtain ⟨tmp, rfl, htmp⟩ := ho
    exact hassemble (by simp [Shared.answer, answer]) rfl (fun _ _ h => h) hw.unmade
      (fun j n hj hn => by simp [Shared.answer, answer, FS.put_of_ne _ _ (hother htmp hj hn)])
  | mv src dst => exact ho.elim

/-- The rename puts a prepared history in place of the old one. -/
theorem rename_step {tmp : Nat} {doc : Json} (hw : Sane parse requests s₀ w)
    (h : Prepared parse requests s₀ i tmp doc w) :
    Sane parse requests s₀ (Shared.answer i w (.mv (.temp tmp) .history)).2 ∧
      Spares i w (Shared.answer i w (.mv (.temp tmp) .history)).2 := by
  obtain ⟨⟨-, hmade⟩, htemp, hlegit⟩ := h
  have hafter : (Shared.answer i w (.mv (.temp tmp) .history)).2 =
      { fs := w.fs.move (.temp tmp) .history [doc]
        maker := w.maker
        renamed := i :: w.renamed } := by
    simp [Shared.answer, answer, htemp]
  have hhist : (w.fs.move (.temp tmp) .history [doc]).file .history = some [doc] := by
    simp [FS.move]
  rw [hafter]
  refine ⟨⟨fun docs hdocs => ⟨doc, ?_, ?_⟩, fun _ => by simp [hhist], hw.unmade⟩,
    ⟨fun _ => by simp [hhist], fun j n hj hn => ⟨hn, ?_⟩, fun j hj => ?_, fun j hj => ?_⟩⟩
  · rw [hhist, Option.some.injEq] at hdocs
    exact hdocs.symm
  · refine hlegit.mono fun j hj => List.mem_cons.mpr ?_
    exact hj.symm
  · have hne : n ≠ tmp := by
      rintro rfl
      rw [hmade, Option.some.injEq] at hn
      exact hj hn.symm
    simp [FS.move, hne]
  · simp [hj]
  · exact List.mem_cons_of_mem i hj

/-- Only where there was no history at the start is an empty one created. -/
theorem create_step (hw : Sane parse requests s₀ w) (hnone : s₀.file .history = none) :
    Sane parse requests s₀ (Shared.answer i w (.echo .history [emptyHistory])).2 ∧
      Spares i w (Shared.answer i w (.echo .history [emptyHistory])).2 := by
  have hempty : Legit parse requests s₀ (· ∈ w.renamed) emptyHistory := by
    refine ⟨emptyHistory_wellFormed, fun pid => ?_, fun pid a ha => ?_, fun pid a ha => ?_⟩
    · simp [auditsOf_emptyHistory]
    · simp [storeOf_none hnone] at ha
    · simp [auditsOf_emptyHistory] at ha
  refine ⟨⟨fun docs hdocs => ⟨emptyHistory, ?_, hempty⟩, fun h => absurd hnone h, hw.unmade⟩,
    ⟨fun _ => ?_, fun j n _ hn => ⟨hn, ?_⟩, fun _ _ => Iff.rfl, fun _ hj => hj⟩⟩
  · simpa [Shared.answer, answer, eq_comm] using hdocs
  · simp [Shared.answer, answer]
  · simp [Shared.answer, answer]

end Operations

/-! A call goes through its operations with what it knows after each. -/

section Rules

variable {parse : String → Option (List Json)} {requests : ι → Request} {s₀ : FS} {i : ι}
  {α : Type} {A : Shared ι → Prop}

theorem race_look {o : FileOp} {k : FileReply o → FileScript α}
    {Q : Ending α → Shared ι → Prop} (hq : ∀ w : Shared ι, (Shared.answer i w o).2 = w)
    (h : ∀ w, Sane parse requests s₀ w → A w →
      ∃ B, Stable (anyOrder parse requests s₀) i B ∧ B w ∧
        RaceTriple parse requests s₀ i B (k (Shared.answer i w o).1) Q) :
    RaceTriple parse requests s₀ i A (.act o k) Q := by
  intro w hw hA _
  rw [hq w]
  exact ⟨hw, ⟨id, fun _ _ _ hn => ⟨hn, rfl⟩, fun _ _ => Iff.rfl, fun _ hj => hj⟩, h w hw hA⟩

/-- An operation on the lock. -/
def OnLock : FileOp → Prop
  | .test _ => True
  | .echo f _ | .rm f => f = .lock
  | _ => False

theorem acquireLock_onLock (left : Nat) : Only OnLock (acquireLock left) := by
  induction left with
  | zero => exact ⟨trivial, fun held => by cases held <;> simp [echo, Only, OnLock]⟩
  | succ left ih =>
    refine ⟨trivial, fun held => ?_⟩
    cases held with
    | true => exact ih
    | false => simp [echo, Only, OnLock]

theorem releaseLock_onLock : Only OnLock releaseLock :=
  ⟨trivial, fun held => by cases held <;> simp [rm, Only, OnLock]⟩

theorem OnLock.isLocal {o : FileOp} (h : OnLock o) (w : Shared ι) : Local i w o := by
  cases o with
  | test => trivial
  | echo => exact h
  | rm => exact .inl h
  | mktemp | read | write | mv => exact h.elim

theorem Present.congr {w w' : Shared ι} (h : Present i w)
    (hhist : w'.fs.file .history = w.fs.file .history) (hren : w'.renamed = w.renamed) :
    Present i w' := by
  unfold Present Waiting at h ⊢
  rwa [hhist, hren]

theorem race_acquire (left : Nat) :
    RaceTriple parse requests s₀ i (Present i) (acquireLock left) (fun _ w => Present i w) :=
  Triple.of_only (acquireLock_onLock left) present_stable fun _ _ ho hw hA =>
    have hstep := (ho.isLocal _).step hw
    ⟨hstep.1, hstep.2.1, hA.congr hstep.2.2.1 hstep.2.2.2.1⟩

/-- Operations on the lock need to know nothing. -/
theorem race_onLock {x : FileScript α} (hx : Only OnLock x) :
    RaceTriple parse requests s₀ i A x (fun _ _ => True) :=
  (Triple.of_only (A := fun _ => True) hx (fun _ _ _ _ _ _ _ _ => trivial)
    fun _ _ ho hw _ =>
      have hstep := (ho.isLocal _).step hw
      ⟨hstep.1, hstep.2.1, trivial⟩).strengthen fun _ _ _ => trivial

theorem race_dropTemp (tmp status : Nat) :
    RaceTriple parse requests s₀ i (Made i tmp) (dropTemp tmp status) (fun _ _ => True) := by
  intro w hw hA _
  have hstep := Local.step (i := i) (o := .rm (.temp tmp)) hw (.inr ⟨tmp, rfl, hA.2⟩)
  exact ⟨hstep.1, hstep.2.1, fun _ => True, fun _ _ _ _ _ _ _ _ => trivial, trivial,
    fun _ _ _ => trivial⟩

theorem race_replaceHistory (tmp : Nat) (doc : Json) :
    RaceTriple parse requests s₀ i (fun w => Made i tmp w ∧
        Legit parse requests s₀ (fun j => j ∈ w.renamed ∨ j = i) doc)
      (replaceHistory tmp ([doc], true)) (fun _ _ => True) := by
  intro w hw ⟨hmade, hlegit⟩ _
  have hstep := Local.step (i := i) (o := .write (.temp tmp) [doc]) hw ⟨tmp, rfl, hmade.2⟩
  refine ⟨hstep.1, hstep.2.1, _, prepared_stable tmp doc, ⟨⟨?_, ?_⟩, ?_, ?_⟩, ?_⟩
  · exact hmade.1.congr hstep.2.2.1 hstep.2.2.2.1
  · exact hstep.2.2.2.2 tmp i hmade.2
  · simp [Shared.answer, answer]
  · exact hlegit
  · intro w' hw' hprep _
    obtain ⟨hsane, hspares⟩ := rename_step hw' hprep
    exact ⟨hsane, hspares, fun _ => True, fun _ _ _ _ _ _ _ _ => trivial, trivial,
      fun _ _ _ => trivial⟩

end Rules

section Append

variable {parse : String → Option (List Json)} {requests : ι → Request} {s₀ : FS} {i : ι}
  {c : AddCall} {a : Json}

/-- No two calls add one version of one program. -/
def DistinctAdds (requests : ι → Request) : Prop :=
  ∀ i j c d, requests i = .add c → requests j = .add d → c.programId = d.programId →
    c.version = d.version → i = j

/-- `version_exists` of any history, the program being there or not. -/
theorem versionFound_iff {doc : Json} (hwf : WellFormedHistory doc) (pid ver : String) :
    nonEmptyCapture (jqOr (jqVersionExists pid ver) (some [doc]) []) = true ↔
      HasAudit doc pid ver ∧ Visible ver := by
  rcases jqProgramExists_eq hwf pid with he | ⟨-, hnil⟩
  · have hout : jqOr (jqVersionExists pid ver) (some [doc]) [] =
        (jqVersionExists pid ver doc).1 := by
      simp [jqOr, jqRun]
    rw [hout]
    exact (nonEmptyCapture_versionExists hwf he ver).2
  · have hout : jqOr (jqVersionExists pid ver) (some [doc]) [] = [] := by
      unfold auditsOf at hnil
      cases haudits : jqAudits pid doc with
      | error => simp [jqOr, jqRun, jqVersionExists, haudits]
      | ok audits =>
        simp only [haudits] at hnil
        simp [jqOr, jqRun, jqVersionExists, haudits, hnil, jqEach]
    have hnot : ¬ HasAudit doc pid ver := by
      rintro ⟨b, hb, -⟩
      simp [hnil] at hb
    simp [hout, nonEmptyCapture, hnot]

/-- The audits of one program give way to others. -/
theorem Legit.rewrite {P Q : ι → Prop} {doc doc' : Json} {pid : String} {audits : List Json}
    (h : Legit parse requests s₀ P doc) (hPQ : ∀ j, P j → Q j)
    (hrew : Rewritten doc pid audits doc') (hdistinct : (audits.map versionOf).Nodup)
    (hkept : ∀ b ∈ storeOf s₀ pid, b ∈ audits)
    (hauthored : ∀ b ∈ audits,
      b ∈ storeOf s₀ pid ∨ ∃ j, Q j ∧ AddedBy parse requests j pid b) :
    Legit parse requests s₀ Q doc' := by
  refine ⟨hrew.1, fun q => ?_, fun q b hb => ?_, fun q b hb => ?_⟩
  · rw [hrew.2]
    by_cases hq : q = pid
    · subst q
      rwa [Function.update_self]
    · rw [Function.update_of_ne hq]
      exact h.distinct q
  · rw [hrew.2]
    by_cases hq : q = pid
    · subst q
      rw [Function.update_self]
      exact hkept b hb
    · rw [Function.update_of_ne hq]
      exact h.kept q b hb
  · rw [hrew.2] at hb
    by_cases hq : q = pid
    · subst q
      rw [Function.update_self] at hb
      exact hauthored b hb
    · rw [Function.update_of_ne hq] at hb
      exact (h.authored q b hb).imp id fun ⟨j, hj, hadd⟩ => ⟨j, hPQ j hj, hadd⟩

/-- A waiting process whose version was not there at the start finds it in no history. -/
theorem Legit.lacks {w : Shared ι} {doc : Json} (h : Legit parse requests s₀ (· ∈ w.renamed) doc)
    (hdistinct : DistinctAdds requests) (hreq : requests i = .add c) (hwait : Waiting i w)
    (hstart : ¬ KeyedLog.Has versionOf (storeOf s₀) c.programId (some c.version)) :
    ¬ HasAudit doc c.programId c.version := by
  rintro ⟨b, hb, hver⟩
  rcases h.authored _ b hb with hs | ⟨j, hj, d, hd, hpid, hrec⟩
  · exact hstart ⟨b, hs, hver⟩
  · obtain ⟨docs, -, he⟩ := Option.bind_eq_some_iff.mp hrec
    rw [(auditEntry_wellFormed he).2, Option.some.injEq] at hver
    obtain rfl := hdistinct j i d c hd hreq hpid hver
    exact hwait hj

theorem Made.history {w : Shared ι} {tmp : Nat} (hw : Sane parse requests s₀ w)
    (h : Made i tmp w) :
    ∃ doc, (Shared.answer i w (.read .history)).1 = some [doc] ∧
      Legit parse requests s₀ (· ∈ w.renamed) doc := by
  obtain ⟨docs, hdocs⟩ := Option.ne_none_iff_exists'.mp h.1.2
  obtain ⟨doc, rfl, hlegit⟩ := hw.history docs hdocs
  exact ⟨doc, hdocs, hlegit⟩

/-- The last read of the history, and the file that comes of it. -/
theorem race_rewrite {tmp : Nat} {k : Option Content → FileScript Nat}
    (h : ∀ w doc, Made i tmp w → Legit parse requests s₀ (· ∈ w.renamed) doc →
      ∃ doc', k (some [doc]) = replaceHistory tmp ([doc'], true) ∧
        Legit parse requests s₀ (fun j => j ∈ w.renamed ∨ j = i) doc') :
    RaceTriple parse requests s₀ i (Made i tmp) (.act (.read .history) k) (fun _ _ => True) := by
  refine race_look (fun _ => rfl) fun w hw hmade => ?_
  obtain ⟨doc, hdoc, hlegit⟩ := hmade.history hw
  obtain ⟨doc', hk, hlegit'⟩ := h w doc hmade hlegit
  rw [hdoc, hk]
  refine ⟨_, ?_, ⟨hmade, hlegit'⟩, race_replaceHistory tmp doc'⟩
  intro j hj v v' hv hv' hold hg
  exact ⟨made_stable tmp j hj v v' hv hv' hold.1 hg,
    hold.2.mono fun m hm => hm.imp (hg.grown m) id⟩

variable (hdistinct : DistinctAdds requests) (hreq : requests i = .add c)
  (hvis : Visible c.version) (hrec : recordOf parse c = some a)
include hdistinct hreq hrec

/-- The program was there: its audits with the new one, whatever happened since. -/
theorem race_append (tmp : Nat)
    (hstart : ¬ KeyedLog.Has versionOf (storeOf s₀) c.programId (some c.version))
    {k : Option Content → FileScript Nat}
    (hk : ∀ doc, k (some [doc]) =
      replaceHistory tmp (jqSingle (jqAppendAudit c.programId a doc))) :
    RaceTriple parse requests s₀ i (Made i tmp) (.act (.read .history) k) (fun _ _ => True) := by
  obtain ⟨docs, -, he⟩ := Option.bind_eq_some_iff.mp hrec
  obtain ⟨hwfa, hver⟩ := auditEntry_wellFormed he
  refine race_rewrite fun w doc hmade hlegit => ?_
  obtain ⟨doc', happ, hrew⟩ := jqAppendAudit_any hlegit.wellFormed hwfa c.programId
  have hlacks := hlegit.lacks hdistinct hreq hmade.1.1 hstart
  refine ⟨doc', by rw [hk, happ, jqSingle], ?_⟩
  refine hlegit.rewrite (fun _ => .inl) hrew ?_ (fun b hb => ?_) (fun b hb => ?_)
  · rw [List.map_append, List.nodup_append]
    refine ⟨hlegit.distinct c.programId, by simp, ?_⟩
    rintro v hv v' hv' rfl
    obtain ⟨b, hb, hbv⟩ := List.mem_map.mp hv
    rw [List.map_singleton, List.mem_singleton] at hv'
    exact hlacks ⟨b, hb, by rw [hbv, hv', hver]⟩
  · exact List.mem_append_left _ (hlegit.kept _ b hb)
  · rcases List.mem_append.mp hb with hb | hb
    · refine (hlegit.authored _ b hb).imp id ?_
      rintro ⟨j, hj, hadd⟩
      exact ⟨j, .inl hj, hadd⟩
    · rw [List.mem_singleton] at hb
      exact .inr ⟨i, .inr rfl, c, hreq, rfl, hb ▸ hrec⟩

omit hdistinct in
/-- The program was not there, so it was not at the start: the new entry loses nothing of it. -/
theorem race_addProgram (tmp : Nat) (hstart : storeOf s₀ c.programId = [])
    {k : Option Content → FileScript Nat}
    (hk : ∀ doc, k (some [doc]) =
      replaceHistory tmp (jqSingle (jqAddProgram c.programId a doc))) :
    RaceTriple parse requests s₀ i (Made i tmp) (.act (.read .history) k) (fun _ _ => True) := by
  obtain ⟨docs, -, he⟩ := Option.bind_eq_some_iff.mp hrec
  obtain ⟨hwfa, -⟩ := auditEntry_wellFormed he
  refine race_rewrite fun w doc _ hlegit => ?_
  obtain ⟨doc', happ, hrew⟩ := jqAddProgram_any hlegit.wellFormed hwfa c.programId
  refine ⟨doc', by rw [hk, happ, jqSingle], ?_⟩
  refine hlegit.rewrite (fun _ => .inl) hrew (by simp) (fun b hb => ?_) (fun b hb => ?_)
  · simp [hstart] at hb
  · rw [List.mem_singleton] at hb
    exact .inr ⟨i, .inr rfl, c, hreq, rfl, hb ▸ hrec⟩

include hvis

theorem race_appendToHistory (tmp : Nat) :
    RaceTriple parse requests s₀ i (Made i tmp)
      (appendToHistory c.programId c.version a tmp) (fun _ _ => True) := by
  refine race_look (fun _ => rfl) fun w hw hmade => ⟨Made i tmp, made_stable tmp, hmade, ?_⟩
  obtain ⟨doc, hdoc, hlegit⟩ := hmade.history hw
  rw [hdoc]
  rcases jqProgramExists_eq hlegit.wellFormed c.programId with he | ⟨he, hnil⟩
  · have hout : jqOr (fun d => jqSingle (jqProgramExists c.programId d)) (some [doc])
        [.bool false] = [.bool true] := by simp [jqOr, jqRun, jqSingle, he]
    simp only [bind_done, hout]
    refine race_look (fun _ => rfl) fun w' hw' hmade' =>
      ⟨Made i tmp, made_stable tmp, hmade', ?_⟩
    obtain ⟨doc₂, hdoc₂, hlegit₂⟩ := hmade'.history hw'
    rw [hdoc₂]
    by_cases hv : nonEmptyCapture
        (jqOr (jqVersionExists c.programId c.version) (some [doc₂]) []) = true
    · simp only [bind_done, if_pos hv]
      exact race_dropTemp tmp 0
    · have hstart : ¬ KeyedLog.Has versionOf (storeOf s₀) c.programId (some c.version) := by
        rintro ⟨b, hb, hbv⟩
        exact hv ((versionFound_iff hlegit₂.wellFormed _ _).mpr
          ⟨⟨b, hlegit₂.kept _ b hb, hbv⟩, hvis⟩)
      simp only [bind_done, if_neg hv]
      exact race_append hdistinct hreq hrec tmp hstart fun _ => rfl
  · have hout : jqOr (fun d => jqSingle (jqProgramExists c.programId d)) (some [doc])
        [.bool false] = [.bool false] := by simp [jqOr, jqRun, jqSingle, he]
    have hstart : storeOf s₀ c.programId = [] := by
      refine List.eq_nil_iff_forall_not_mem.mpr fun b hb => ?_
      have hb' := hlegit.kept _ b hb
      simp [hnil] at hb'
    simp only [bind_done, hout]
    exact race_addProgram hreq hrec tmp hstart fun _ => rfl

theorem race_jqAppendAuditFile :
    RaceTriple parse requests s₀ i (Present i)
      (jqAppendAuditFile c.programId c.version a) (fun _ _ => True) := by
  intro w hw hpresent _
  have hstep := Local.step (i := i) (o := .mktemp) hw trivial
  refine ⟨hstep.1, hstep.2.1, Made i w.fs.next, made_stable _, ⟨?_, ?_⟩, ?_⟩
  · exact hpresent.congr hstep.2.2.1 hstep.2.2.2.1
  · simp [Shared.answer]
  · refine race_look (fun _ => rfl) fun w' _ hmade => ⟨_, made_stable _, hmade, ?_⟩
    have htest : (Shared.answer i w' (.test .history)).1 = true := by
      simpa [Shared.answer, answer, Option.isSome_iff_ne_none] using hmade.1.2
    simp only [bind_done, htest, if_true]
    exact race_appendToHistory hdistinct hreq hvis hrec _

end Append

section Calls

variable {parse : String → Option (List Json)} {requests : ι → Request} {s₀ : FS} {i : ι}
  {c : AddCall}

theorem race_init :
    RaceTriple parse requests s₀ i (Waiting i) auditHistoryInit
      (fun e w => e = .ok 0 ∧ Present i w) := by
  refine race_look (fun _ => rfl) fun w hw hwait => ?_
  cases hh : w.fs.file .history with
  | some docs =>
    have hdone : RaceTriple parse requests s₀ i (Present i) (.done 0)
        (fun e w => e = .ok 0 ∧ Present i w) := fun _ _ h => ⟨rfl, h⟩
    refine ⟨Present i, present_stable, ⟨hwait, by simp [hh]⟩, ?_⟩
    simpa [Shared.answer, answer, hh] using hdone
  | none =>
    have hnone : s₀.file .history = none := by
      by_contra h
      exact hw.present h hh
    refine ⟨Waiting i, waiting_stable, hwait, ?_⟩
    simp only [Shared.answer, answer, hh, Option.isSome_none]
    intro w' hw' hwait' _
    obtain ⟨hsane, hspares⟩ := create_step hw' hnone
    exact ⟨hsane, hspares, Present i, present_stable,
      ⟨hwait', by simp [Shared.answer, answer]⟩, fun _ _ h => ⟨rfl, h⟩⟩

variable (hdistinct : DistinctAdds requests) (hreq : requests i = .add c)
  (hvis : Visible c.version)
include hdistinct hreq hvis

theorem race_addLocked :
    RaceTriple parse requests s₀ i (Present i) (addLocked parse c) (fun _ _ => True) := by
  have hrelease : ∀ n : Nat, RaceTriple parse requests s₀ i (fun _ => True)
      (releaseLock.bind fun status => (errexit status).bind fun _ => .done n)
      (fun _ _ => True) := by
    intro n
    refine race_onLock (releaseLock_onLock.bind fun status => ?_)
    by_cases h : status = 0 <;> simp [errexit, h, Only]
  cases hp : parse (echoArg c.findingsJson) with
  | none =>
    simp only [addLocked, hp, bind_eq]
    exact (hrelease errJsonOp).strengthen fun _ _ _ => trivial
  | some docs =>
    cases he : auditEntry c docs with
    | none =>
      simp only [addLocked, hp, he]
      exact fun _ _ _ => trivial
    | some entry =>
      have hrec : recordOf parse c = some entry := by simp [recordOf, hp, he]
      simp only [addLocked, hp, he, bind_eq]
      exact (race_jqAppendAuditFile hdistinct hreq hvis hrec).bind (fun status => hrelease _)
        fun _ _ _ _ => trivial

theorem race_auditHistoryAdd :
    RaceTriple parse requests s₀ i (Waiting i) (auditHistoryAdd parse c) (fun _ _ => True) := by
  have hreturn : ∀ n : Nat, RaceTriple parse requests s₀ i (Waiting i) (.done n)
      (fun _ _ => True) := fun _ _ _ _ => trivial
  have hlocked : RaceTriple parse requests s₀ i (Present i)
      ((acquireLock c.lockTimeout).bind fun acquired =>
        if acquired = 0 then addLocked parse c else .done errLockTimeout)
      (fun _ _ => True) := by
    refine (race_acquire c.lockTimeout).bind (fun acquired => ?_) fun _ _ _ _ => trivial
    exact Triple.ite (fun _ => race_addLocked hdistinct hreq hvis)
      fun _ _ _ _ => trivial
  simp only [auditHistoryAdd, bind_eq]
  refine Triple.ite (fun _ => hreturn _) fun _ => ?_
  refine Triple.ite (fun _ => hreturn _) fun _ => ?_
  refine Triple.ite (fun _ => hreturn _) fun _ => ?_
  refine Triple.ite (fun _ => hreturn _) fun _ => ?_
  refine race_look (fun _ => rfl) fun w _ hwait => ?_
  cases hh : w.fs.file .history with
  | some docs =>
    refine ⟨Present i, present_stable, ⟨hwait, by simp [hh]⟩, ?_⟩
    simpa [Shared.answer, answer, hh] using hlocked
  | none =>
    have hinit : RaceTriple parse requests s₀ i (Waiting i)
        (auditHistoryInit.bind fun status => (errexit status).bind fun _ =>
          (acquireLock c.lockTimeout).bind fun acquired =>
            if acquired = 0 then addLocked parse c else .done errLockTimeout)
        (fun _ _ => True) := by
      refine race_init.bind (fun status => ?_) fun _ _ _ _ => trivial
      refine Triple.errexit (fun w _ h => by simpa using h.1) ?_
      exact hlocked.strengthen fun w _ h => h.2
    refine ⟨Waiting i, waiting_stable, hwait, ?_⟩
    simpa [Shared.answer, answer, hh] using hinit

end Calls

/-! A reader answers from one version of the history. -/

section Readers

variable {parse : String → Option (List Json)} {requests : ι → Request} {s₀ : FS} {i : ι}
  {pid ver : String}

/-- What `audit_history_get` makes of the text of `_jq_get_audit_by_version`. -/
def shownAudit (pid ver : String) (docs : Option Content) : FileScript (Nat × List Json) :=
  match jqOr (jqAuditsOfVersion pid ver) docs [.null] with
  | [] => .done (errVersionNotFound, [])
  | [.null] => .done (errVersionNotFound, [])
  | found => .done (0, found)

theorem auditHistoryGet_eq (hpid : pid ≠ "") (hver : ver ≠ "") :
    auditHistoryGet pid ver true = .act (.test .history) fun present =>
      if present = true then .act (.read .history) (shownAudit pid ver)
      else .done (errNoHistory, []) := by
  unfold auditHistoryGet
  rw [if_neg hpid, if_neg hver]
  rfl

theorem shownAudit_done (pid ver : String) (docs : Option Content) :
    ∃ r, shownAudit pid ver docs = .done r := by
  unfold shownAudit
  split
  · exact ⟨_, rfl⟩
  · exact ⟨_, rfl⟩
  · exact ⟨_, rfl⟩

theorem shownAudit_eq (hpid : pid ≠ "") (hver : ver ≠ "") {doc : Json}
    (hwf : WellFormedHistory doc) (hdistinct : KeyedLog.Distinct versionOf (auditsOf doc)) :
    shownAudit pid ver (some [doc]) =
      .done (if KeyedLog.lookup versionOf (auditsOf doc) pid (some ver) = []
        then errVersionNotFound else 0,
        KeyedLog.lookup versionOf (auditsOf doc) pid (some ver)) := by
  have hrun := auditHistoryGet_run (s := { file := fun _ => some [doc], next := 0 }) hpid hver rfl
    hwf rfl (hdistinct.lookup_length pid (some ver))
  obtain ⟨r, hr⟩ := shownAudit_done pid ver (some [doc])
  rw [auditHistoryGet_eq hpid hver, run_act] at hrun
  simp only [answer, Option.isSome_some, if_true, run_act, hr, run_done, Prod.mk.injEq,
    Except.ok.injEq, and_true] at hrun
  rw [hr, hrun]

/-- What a reader may say: a record of the start or of another process, and no other, under
its own version; and a record of the start is always found. -/
structure Answers (parse : String → Option (List Json)) (requests : ι → Request) (s₀ : FS)
    (pid ver : String) (jqBin : Bool) (e : Ending (Nat × List Json)) : Prop where
  sound : ∀ found, e = .ok (0, found) → ∃ a, found = [a] ∧ versionOf a = some ver ∧
    (a ∈ storeOf s₀ pid ∨ ∃ j, AddedBy parse requests j pid a)
  complete : pid ≠ "" → ver ≠ "" → jqBin = true →
    ∀ a ∈ storeOf s₀ pid, versionOf a = some ver → e = .ok (0, [a])

/-- The answer from a legitimate history. -/
theorem Legit.answers {P : ι → Prop} {doc : Json} (h : Legit parse requests s₀ P doc)
    (pid ver : String) (jqBin : Bool) :
    Answers parse requests s₀ pid ver jqBin
      (.ok (if KeyedLog.lookup versionOf (auditsOf doc) pid (some ver) = []
        then errVersionNotFound else 0,
        KeyedLog.lookup versionOf (auditsOf doc) pid (some ver))) := by
  have hone := h.distinct.lookup_length pid (some ver)
  have hmem : ∀ a, a ∈ KeyedLog.lookup versionOf (auditsOf doc) pid (some ver) ↔
      a ∈ auditsOf doc pid ∧ versionOf a = some ver := by
    intro a
    simp [KeyedLog.lookup]
  generalize KeyedLog.lookup versionOf (auditsOf doc) pid (some ver) = found at hone hmem
  rcases found with _ | ⟨b, _ | ⟨b', rest⟩⟩
  · refine ⟨fun out hout => ?_, fun _ _ _ a ha hver => ?_⟩
    · simp [errVersionNotFound] at hout
    · exact absurd ((hmem a).mpr ⟨h.kept pid a ha, hver⟩) (List.not_mem_nil)
  · obtain ⟨hb, hver⟩ := (hmem b).mp List.mem_cons_self
    refine ⟨fun out hout => ⟨b, ?_, hver, ?_⟩, fun _ _ _ a ha hav => ?_⟩
    · simpa [eq_comm] using hout
    · refine (h.authored pid b hb).imp id ?_
      rintro ⟨j, -, hadd⟩
      exact ⟨j, hadd⟩
    · obtain rfl := List.mem_singleton.mp ((hmem a).mpr ⟨h.kept pid a ha, hav⟩)
      simp
  · simp at hone

theorem race_auditHistoryGet (pid ver : String) (jqBin : Bool) :
    RaceTriple parse requests s₀ i (fun _ => True) (auditHistoryGet pid ver jqBin)
      (fun e _ => Answers parse requests s₀ pid ver jqBin e) := by
  have hfails : ∀ n : Nat, n ≠ 0 → (pid ≠ "" → ver ≠ "" → jqBin = true → False) →
      RaceTriple parse requests s₀ i (fun _ => True) (.done (n, []))
        (fun e _ => Answers parse requests s₀ pid ver jqBin e) := by
    intro n hn hbad w _ _
    refine ⟨fun found h => ?_, fun hpid hver hjq => (hbad hpid hver hjq).elim⟩
    rw [Except.ok.injEq, Prod.mk.injEq] at h
    exact absurd h.1 hn
  by_cases hpid : pid = ""
  · rw [auditHistoryGet, if_pos hpid]
    exact hfails _ (by decide) fun h => absurd hpid h
  by_cases hver : ver = ""
  · rw [auditHistoryGet, if_neg hpid, if_pos hver]
    exact hfails _ (by decide) fun _ h => absurd hver h
  cases jqBin with
  | false =>
    rw [auditHistoryGet, if_neg hpid, if_neg hver]
    exact hfails _ (by decide) fun _ _ h => by simp at h
  | true =>
    rw [auditHistoryGet_eq hpid hver]
    refine race_look (fun _ => rfl) fun w hw _ => ?_
    cases hh : w.fs.file .history with
    | none =>
      refine ⟨fun _ => True, fun _ _ _ _ _ _ _ _ => trivial, trivial, ?_⟩
      have hnone : s₀.file .history = none := by
        by_contra h
        exact hw.present h hh
      have habsent : RaceTriple parse requests s₀ i (fun _ => True) (.done (errNoHistory, []))
          (fun e _ => Answers parse requests s₀ pid ver true e) := by
        intro _ _ _
        refine ⟨fun found h => ?_, fun _ _ _ a ha => ?_⟩
        · simp [errNoHistory] at h
        · simp [storeOf_none hnone] at ha
      simpa [Shared.answer, answer, hh] using habsent
    | some docs =>
      -- a history that is there stays there
      refine ⟨fun w => w.fs.file .history ≠ none, fun j _ v v' _ _ h hg => hg.present h,
        by simp [hh], ?_⟩
      have hread : RaceTriple parse requests s₀ i (fun w => w.fs.file .history ≠ none)
          (.act (.read .history) (shownAudit pid ver))
          (fun e _ => Answers parse requests s₀ pid ver true e) := by
        refine race_look (fun _ => rfl) fun v hv hpresent => ?_
        obtain ⟨docs, hdocs⟩ := Option.ne_none_iff_exists'.mp hpresent
        obtain ⟨doc, rfl, hlegit⟩ := hv.history docs hdocs
        refine ⟨fun _ => True, fun _ _ _ _ _ _ _ _ => trivial, trivial, ?_⟩
        have hread : (Shared.answer i v (.read .history)).1 = some [doc] := hdocs
        rw [hread, shownAudit_eq hpid hver hlegit.wellFormed hlegit.distinct]
        exact fun _ _ _ => hlegit.answers pid ver true
      simpa [Shared.answer, answer, hh] using hread

end Readers

section Main

/-- What holds of a process that has ended. -/
def RequestEnds (parse : String → Option (List Json)) (requests : ι → Request) (s₀ : FS) (i : ι)
    (e : Ending (Nat × List Json)) (_ : Shared ι) : Prop :=
  ∀ pid ver jqBin, requests i = .get pid ver jqBin → Answers parse requests s₀ pid ver jqBin e

theorem startRequests_supported (parse : String → Option (List Json)) (requests : ι → Request)
    (s₀ : FS) (hdistinct : DistinctAdds requests)
    (hvis : ∀ i c, requests i = .add c → Visible c.version)
    (hs₀ : ∀ docs, s₀.file .history = some docs → ∃ doc, docs = [doc] ∧
      WellFormedHistory doc ∧ KeyedLog.Distinct versionOf (auditsOf doc)) :
    Supported Shared.answer (anyOrder parse requests s₀) (RequestEnds parse requests s₀)
      (startRequests parse requests s₀) := by
  refine ⟨⟨fun docs hdocs => ?_, id, fun _ _ => rfl⟩, fun i => ?_⟩
  · obtain ⟨doc, rfl, hwf, hd⟩ := hs₀ docs hdocs
    have hstore : storeOf s₀ = auditsOf doc := storeOf_some hdocs
    exact ⟨doc, rfl, hwf, hd, fun pid a ha => by rwa [← hstore],
      fun pid a ha => .inl (by rwa [hstore])⟩
  · refine ⟨Waiting i, waiting_stable, by simp [Waiting, startRequests], ?_⟩
    have hvacuous : ∀ {x : FileScript Nat},
        (∀ pid ver jqBin, requests i ≠ .get pid ver jqBin) →
        RaceTriple parse requests s₀ i (Waiting i) x (fun _ _ => True) →
        RaceTriple parse requests s₀ i (Waiting i) (x.bind fun status => .done (status, []))
          (RequestEnds parse requests s₀ i) := by
      intro x hnot hx
      refine hx.bind (fun status w _ _ => ?_) (fun n w _ _ => ?_)
      · exact fun pid ver jqBin h => absurd h (hnot pid ver jqBin)
      · exact fun pid ver jqBin h => absurd h (hnot pid ver jqBin)
    simp only [startRequests]
    cases hreq : requests i with
    | init => exact hvacuous (by simp [hreq]) (race_init.weaken fun _ _ _ _ => trivial)
    | add c => exact hvacuous (by simp [hreq]) (race_auditHistoryAdd hdistinct hreq (hvis i c hreq))
    | get pid ver jqBin =>
      refine ((race_auditHistoryGet pid ver jqBin).strengthen fun _ _ _ => trivial).weaken ?_
      intro e w _ h pid' ver' jqBin' hget
      rw [hreq, Request.get.injEq] at hget
      obtain ⟨rfl, rfl, rfl⟩ := hget
      exact h

/-- The two adds that race for the lock, and a reader of the first one's audit. -/
def raceRequests : Option Bool → Request
  | some b => .add (pairCalls b)
  | none => .get "Vault111" "1.0.0" true

/-- The reader comes last. -/
def readAfterRace : List (Option Bool) := losingSchedule.map some ++ [none, none]

end Main

end SolanaAuditor.History
