/- SolanaAuditor/History/Concurrency
   digest: audit_history_add under the lock discipline: one holder, and no lost record. -/

import SolanaAuditor.History.LockDiscipline

set_option autoImplicit false
set_option relaxedAutoImplicit false

/-!
The walk goes through the commands of a run in their order. It breaks only where a run
creates a file that appeared after its test, which the guard of the discipline excludes.
-/

namespace SolanaAuditor.History

open SolanaAuditor.Lib SolanaAuditor.Lib.Shell SolanaAuditor.Lib.RelyGuarantee

variable {ι : Type} [DecidableEq ι]

section Walk

variable {parse : String → Option (List Json)} {calls : ι → AddCall} {s₀ : FS} {i : ι}

theorem triple_init :
    LockTriple parse calls s₀ i (fun w => holdsLock w.log i = false) auditHistoryInit
      (fun e w => e = .ok 0 ∧ Ready i w) := by
  refine triple_look (fun _ => rfl) fun w _ hout => ?_
  cases hh : w.fs.file .history with
  | some docs =>
    have hdone : LockTriple parse calls s₀ i (Ready i) (.done 0)
        (fun e w => e = .ok 0 ∧ Ready i w) := fun _ _ h => ⟨rfl, h⟩
    refine ⟨Ready i, ready_stable, ⟨hout, by simp [hh]⟩, ?_⟩
    simpa [World.answer, answer, hh] using hdone
  | none =>
    refine ⟨_, outside_stable, hout, ?_⟩
    simp only [World.answer, answer, hh, Option.isSome_none]
    intro w' hw' hout' hfresh
    obtain ⟨hinv, hguar⟩ := echo_history_step hw' hfresh
    exact ⟨hinv, hguar, Ready i, ready_stable, ⟨hout', by simp [World.answer, answer]⟩,
      fun _ _ h => ⟨rfl, h⟩⟩

theorem triple_acquire (left : Nat) :
    LockTriple parse calls s₀ i (Ready i) (acquireLock left)
      (fun e w => ∃ status, e = .ok status ∧ (status = 0 → Critical i w)) := by
  have hcreate : LockTriple parse calls s₀ i (Ready i)
      (.act (.echo .lock []) fun b => if b = true then .done 0 else .done 1)
      (fun e w => ∃ status, e = .ok status ∧ (status = 0 → Critical i w)) := by
    intro w hw hready hfresh
    obtain ⟨hinv, hguar⟩ := echo_lock_step (i := i) hw hfresh
    obtain ⟨docs, hdocs⟩ := Option.ne_none_iff_exists'.mp hready.2
    obtain ⟨doc, rfl, -⟩ := hw.history docs hdocs
    refine ⟨hinv, hguar, Inside i doc, inside_stable doc, ⟨?_, ?_⟩, ?_⟩
    · simp [World.answer, lockEvent, holdsLock]
    · simpa [World.answer, answer] using hdocs
    · exact fun _ _ h => ⟨0, rfl, fun _ => ⟨doc, h⟩⟩
  induction left with
  | zero =>
    refine triple_look (fun _ => rfl) fun w _ hready => ⟨Ready i, ready_stable, hready, ?_⟩
    cases hl : w.fs.file .lock with
    | some l =>
      have htimeout : LockTriple parse calls s₀ i (Ready i) (.done errLockTimeout)
          (fun e w => ∃ status, e = .ok status ∧ (status = 0 → Critical i w)) :=
        fun _ _ _ => ⟨errLockTimeout, rfl, fun h => absurd h (by decide)⟩
      simpa [World.answer, answer, hl] using htimeout
    | none => simpa [World.answer, answer, hl, echo] using hcreate
  | succ left ih =>
    refine triple_look (fun _ => rfl) fun w _ hready => ⟨Ready i, ready_stable, hready, ?_⟩
    cases hl : w.fs.file .lock with
    | some l => simpa [World.answer, answer, hl] using ih
    | none => simpa [World.answer, answer, hl, echo] using hcreate

/-- What run `i` knows after `_jq_append_audit`. -/
def AppendEnds (parse : String → Option (List Json)) (calls : ι → AddCall) (s₀ : FS) (i : ι)
    (e : Ending Nat) (w : World ι) : Prop :=
  ∃ status, e = .ok status ∧ Critical i w ∧ (status = 0 → Stored parse calls s₀ i w)

theorem triple_dropTemp (doc : Json) (tmp status : Nat) (c : Content) :
    LockTriple parse calls s₀ i
      (fun w => InsideTemp i doc tmp c w ∧ (status = 0 → Stored parse calls s₀ i w))
      (dropTemp tmp status) (AppendEnds parse calls s₀ i) := by
  refine triple_private (fun _ => rfl) (fun w => by simp [World.answer, answer])
    (fun w => by simp [World.answer, answer]) (fun w h => h.1.1.1) fun w _ h => ?_
  refine ⟨_, (inside_stable doc).and (stored_stable.imp (status = 0)), ⟨⟨h.1.1.1, ?_⟩, ?_⟩,
    fun w' _ h' => ⟨status, rfl, ⟨doc, h'.1⟩, h'.2⟩⟩
  · simpa [World.answer, answer] using h.1.1.2
  · intro hs
    refine (h.2 hs).grows fun pid a ha => ?_
    rwa [storeOf_congr (t := w.fs) (by simp [World.answer, answer])]

theorem triple_replaceHistory {doc doc' a : Json} {tmp : Nat} {c : Content}
    (hrec : recordOf parse (calls i) = some a) (hver : versionOf a = some (calls i).version)
    (happ : Appended doc (calls i).programId a doc') :
    LockTriple parse calls s₀ i (InsideTemp i doc tmp c) (replaceHistory tmp ([doc'], true))
      (AppendEnds parse calls s₀ i) := by
  refine triple_private (fun _ => rfl) (fun w => by simp [World.answer, answer])
    (fun w => by simp [World.answer, answer]) (fun w h => h.1.1) fun w _ h => ?_
  refine ⟨InsideTemp i doc tmp [doc'], insideTemp_stable doc tmp _, ⟨⟨h.1.1, ?_⟩, ?_⟩, ?_⟩
  · simpa [World.answer, answer] using h.1.2
  · simp [World.answer, answer]
  · have hmv : LockTriple parse calls s₀ i (InsideTemp i doc tmp [doc'])
        (.act (.mv (.temp tmp) .history) fun _ => .done 0) (AppendEnds parse calls s₀ i) := by
      intro w' hw' hin _
      obtain ⟨hinv, hguar, hinside⟩ := mv_history_step hw' hin hrec happ
      refine ⟨hinv, hguar, _, (inside_stable doc').and stored_stable, ⟨hinside, ?_⟩,
        fun _ _ h => ⟨0, rfl, ⟨doc', h.1⟩, fun _ => h.2⟩⟩
      have ha : a ∈ storeOf (World.answer i w' (.mv (.temp tmp) .history)).2.fs
          (calls i).programId := by
        rw [storeOf_some hinside.2, happ.2, Function.update_self]
        simp
      exact ⟨⟨a, ha, hver⟩, Or.inr ⟨a, hrec, ha⟩⟩
    simpa [World.answer, answer, mv] using hmv

/-- Two runs with one pair are one run, so a pair found in the history is the run's own
record or was there at the start. -/
theorem stored_of_has (hdistinct : Function.Injective fun i => ((calls i).programId,
      (calls i).version)) {w : World ι} (hw : Inv parse calls s₀ w) {doc : Json}
    (hin : Inside i doc w) (hhas : HasAudit doc (calls i).programId (calls i).version) :
    Stored parse calls s₀ i w := by
  obtain ⟨docs, hdocs, -, hold⟩ := hw.history _ hin.2
  rw [List.cons.injEq] at hdocs
  obtain ⟨rfl, -⟩ := hdocs
  have hstore : storeOf w.fs = auditsOf doc := storeOf_some hin.2
  refine ⟨by rw [hstore]; exact hhas, ?_⟩
  obtain ⟨a, ha, hv⟩ := hhas
  rcases hold _ a ha with hs | ⟨j, hpid, hrec⟩
  · exact Or.inl ⟨a, hs, hv⟩
  · obtain ⟨docs, -, he⟩ := Option.bind_eq_some_iff.mp hrec
    have hver : (calls i).version = (calls j).version := by
      rw [(auditEntry_wellFormed he).2, Option.some.injEq] at hv
      exact hv.symm
    have hij : i = j := hdistinct (Prod.ext hpid hver)
    subst j
    exact Or.inr ⟨a, hrec, by rwa [hstore]⟩

theorem triple_appendToHistory (hdistinct : Function.Injective fun i => ((calls i).programId,
      (calls i).version)) {a : Json} (hrec : recordOf parse (calls i) = some a)
    (hwfa : WellFormedAudit a) (hver : versionOf a = some (calls i).version) (doc : Json)
    (tmp : Nat) (c : Content) :
    LockTriple parse calls s₀ i (InsideTemp i doc tmp c)
      (appendToHistory (calls i).programId (calls i).version a tmp)
      (AppendEnds parse calls s₀ i) := by
  have hread : ∀ {w : World ι}, InsideTemp i doc tmp c w →
      (World.answer i w (.read .history)).1 = some [doc] := fun h => h.1.2
  refine triple_look (fun _ => rfl) fun w hw h => ⟨_, insideTemp_stable doc tmp c, h, ?_⟩
  obtain ⟨docs, hdocs, hwf, -⟩ := hw.history _ h.1.2
  rw [List.cons.injEq] at hdocs
  obtain ⟨rfl, -⟩ := hdocs
  rw [hread h]
  rcases jqProgramExists_eq hwf (calls i).programId with he | ⟨he, -⟩
  · -- the program is there: look for the version, then append
    have hout : jqOr (fun d => jqSingle (jqProgramExists (calls i).programId d)) (some [doc])
        [.bool false] = [.bool true] := by simp [jqOr, jqRun, jqSingle, he]
    simp only [bind_done, hout]
    refine triple_look (fun _ => rfl) fun w' hw' h' => ?_
    rw [hread h']
    obtain ⟨hok, hiff⟩ := nonEmptyCapture_versionExists hwf he (calls i).version
    have hvout : jqOr (jqVersionExists (calls i).programId (calls i).version) (some [doc]) [] =
        (jqVersionExists (calls i).programId (calls i).version doc).1 := by
      simp [jqOr, jqRun]
    simp only [bind_done, hvout]
    by_cases hv : nonEmptyCapture
        (jqVersionExists (calls i).programId (calls i).version doc).1 = true
    · rw [if_pos hv]
      refine ⟨_, (insideTemp_stable doc tmp c).and (stored_stable.imp (0 = 0)),
        ⟨h', fun _ => stored_of_has hdistinct hw' h'.1 (hiff.mp hv).1⟩, ?_⟩
      exact triple_dropTemp doc tmp 0 c
    · obtain ⟨doc', happ, hspec⟩ := jqAppendAudit_spec hwf he hwfa
      rw [if_neg hv]
      refine ⟨_, insideTemp_stable doc tmp c, h', ?_⟩
      refine triple_look (fun _ => rfl) fun w'' _ h'' => ⟨_, insideTemp_stable doc tmp c, h'', ?_⟩
      rw [hread h'']
      simpa [jqRun, jqSingle, happ] using triple_replaceHistory hrec hver hspec
  · -- the program is new
    obtain ⟨doc', happ, hspec⟩ := jqAddProgram_spec hwf he hwfa
    have hout : jqOr (fun d => jqSingle (jqProgramExists (calls i).programId d)) (some [doc])
        [.bool false] = [.bool false] := by simp [jqOr, jqRun, jqSingle, he]
    simp only [bind_done, hout]
    refine triple_look (fun _ => rfl) fun w' _ h' => ⟨_, insideTemp_stable doc tmp c, h', ?_⟩
    rw [hread h']
    simpa [jqRun, jqSingle, happ] using triple_replaceHistory hrec hver hspec

theorem triple_jqAppendAuditFile (hdistinct : Function.Injective fun i => ((calls i).programId,
      (calls i).version)) {a : Json} (hrec : recordOf parse (calls i) = some a)
    (hwfa : WellFormedAudit a) (hver : versionOf a = some (calls i).version) :
    LockTriple parse calls s₀ i (Critical i)
      (jqAppendAuditFile (calls i).programId (calls i).version a)
      (AppendEnds parse calls s₀ i) := by
  refine triple_private (fun _ => rfl) (fun w => by simp [World.answer, answer])
    (fun w => by simp [World.answer, answer]) (fun w ⟨_, h⟩ => h.1) fun w _ ⟨doc, h⟩ => ?_
  refine ⟨InsideTemp i doc w.fs.next [], insideTemp_stable doc _ _, ⟨⟨h.1, ?_⟩, ?_⟩, ?_⟩
  · simpa [World.answer, answer] using h.2
  · simp [World.answer, answer]
  · refine triple_look (fun _ => rfl) fun w' _ h' => ⟨_, insideTemp_stable doc _ _, h', ?_⟩
    have htest : (World.answer i w' (.test .history)).1 = true := by
      simp [World.answer, answer, h'.1.2]
    simp only [bind_done, htest, if_true]
    exact triple_appendToHistory hdistinct hrec hwfa hver doc _ []

theorem triple_release (p : Prop) :
    LockTriple parse calls s₀ i
      (fun w => Critical i w ∧ (p → Stored parse calls s₀ i w)) releaseLock
      (fun e w => e = .ok 0 ∧ (p → Stored parse calls s₀ i w)) := by
  refine triple_look (fun _ => rfl) fun w hw ⟨⟨doc, h⟩, hs⟩ => ?_
  refine ⟨_, (inside_stable doc).and (stored_stable.imp p), ⟨h, hs⟩, ?_⟩
  have htest : (World.answer i w (.test .lock)).1 = true := by
    simpa [World.answer, answer, Option.isSome_iff_ne_none] using hw.locked i h.1
  simp only [bind_done, htest, if_true]
  intro w' hw' h' _
  obtain ⟨hinv, hguar⟩ := rm_lock_step hw' h'.1.1
  exact ⟨hinv, hguar, _, stored_stable.imp p, fun hp => (h'.2 hp).grows hguar.grows,
    fun _ _ h => ⟨rfl, h⟩⟩

/-- The critical section of a run that returns 0 leaves its record behind. -/
theorem triple_addLocked (hdistinct : Function.Injective fun i => ((calls i).programId,
      (calls i).version)) :
    LockTriple parse calls s₀ i (Critical i) (addLocked parse (calls i))
      (fun e w => e = .ok 0 → Stored parse calls s₀ i w) := by
  cases hp : parse (echoArg (calls i).findingsJson) with
  | none =>
    have hrel : LockTriple parse calls s₀ i (Critical i) releaseLock
        (fun e w => e = .ok 0 ∧ (False → Stored parse calls s₀ i w)) :=
      (triple_release False).strengthen fun _ _ h => ⟨h, False.elim⟩
    simp only [addLocked, hp, bind_eq]
    refine hrel.bind (fun status => ?_) (fun n w _ h => by simp at h)
    refine Triple.errexit (fun w _ h => by simpa using h.1) ?_
    exact fun w _ _ h => absurd h (by decide)
  | some docs =>
    cases he : auditEntry (calls i) docs with
    | none =>
      simp only [addLocked, hp, he]
      exact fun w _ _ h => by simp at h
    | some entry =>
      have hrec : recordOf parse (calls i) = some entry := by simp [recordOf, hp, he]
      obtain ⟨hwfa, hver⟩ := auditEntry_wellFormed he
      simp only [addLocked, hp, he, bind_eq]
      refine (triple_jqAppendAuditFile hdistinct hrec hwfa hver).bind (fun status => ?_)
        (fun n w _ h => by
          obtain ⟨_, hok, -⟩ := h
          simp at hok)
      have hrel : LockTriple parse calls s₀ i (AppendEnds parse calls s₀ i (.ok status))
          releaseLock (fun e w => e = .ok 0 ∧ (status = 0 → Stored parse calls s₀ i w)) := by
        refine (triple_release (status = 0)).strengthen ?_
        rintro w - ⟨status', h, hcrit, hs⟩
        obtain rfl : status = status' := by simpa using h
        exact ⟨hcrit, hs⟩
      refine hrel.bind (fun released => ?_) (fun n w _ h => by simp at h)
      refine Triple.errexit (fun w _ h => by simpa using h.1) ?_
      intro w _ h hret
      by_cases hs : status = 0
      · exact h.2 hs
      · simp [hs, errJsonOp] at hret

/-- A run of `audit_history_add` that returns 0 leaves its record behind. -/
theorem triple_auditHistoryAdd (hdistinct : Function.Injective fun i => ((calls i).programId,
      (calls i).version)) :
    LockTriple parse calls s₀ i (fun w => holdsLock w.log i = false)
      (auditHistoryAdd parse (calls i)) (fun e w => e = .ok 0 → Stored parse calls s₀ i w) := by
  have hreturn : ∀ n : Nat, n ≠ 0 → LockTriple parse calls s₀ i
      (fun w => holdsLock w.log i = false) (.done n)
      (fun e w => e = .ok 0 → Stored parse calls s₀ i w) :=
    fun n hn w _ _ h => absurd (by simpa using h) hn
  -- from a history that is there: the lock, then the critical section
  have hlocked : LockTriple parse calls s₀ i (Ready i)
      ((acquireLock (calls i).lockTimeout).bind fun acquired =>
        if acquired = 0 then addLocked parse (calls i) else .done errLockTimeout)
      (fun e w => e = .ok 0 → Stored parse calls s₀ i w) := by
    refine (triple_acquire (calls i).lockTimeout).bind (fun acquired => ?_)
      (fun n w _ ⟨_, h, _⟩ => by simp at h)
    refine Triple.ite (fun h => ?_) (fun _ => ?_)
    · refine (triple_addLocked hdistinct).strengthen ?_
      rintro w - ⟨status, hst, hcrit⟩
      obtain rfl : acquired = status := by simpa using hst
      exact hcrit h
    · exact fun w _ _ h => absurd h (by decide)
  simp only [auditHistoryAdd, bind_eq]
  refine Triple.ite (fun _ => hreturn _ (by decide)) fun _ => ?_
  refine Triple.ite (fun _ => hreturn _ (by decide)) fun _ => ?_
  refine Triple.ite (fun _ => hreturn _ (by decide)) fun _ => ?_
  refine Triple.ite (fun _ => hreturn _ (by decide)) fun _ => ?_
  refine triple_look (fun _ => rfl) fun w _ hout => ?_
  cases hh : w.fs.file .history with
  | some docs =>
    refine ⟨Ready i, ready_stable, ⟨hout, by simp [hh]⟩, ?_⟩
    simpa [World.answer, answer, hh] using hlocked
  | none =>
    refine ⟨_, outside_stable, hout, ?_⟩
    have hinit : LockTriple parse calls s₀ i (fun w => holdsLock w.log i = false)
        (auditHistoryInit.bind fun status => (errexit status).bind fun _ =>
          (acquireLock (calls i).lockTimeout).bind fun acquired =>
            if acquired = 0 then addLocked parse (calls i) else .done errLockTimeout)
        (fun e w => e = .ok 0 → Stored parse calls s₀ i w) := by
      refine triple_init.bind (fun status => ?_) (fun n w _ h => by simp at h)
      refine Triple.errexit (fun w _ h => by simpa using h.1) ?_
      exact hlocked.strengthen fun w _ h => h.2
    simpa [World.answer, answer, hh] using hinit

end Walk

/-- Every run is at its start: nobody holds the lock, and the history, if there is one,
is well formed. -/
theorem startRuns_supported (parse : String → Option (List Json)) (calls : ι → AddCall)
    (s₀ : FS) (hdistinct : Function.Injective fun i => ((calls i).programId, (calls i).version))
    (hs₀ : ∀ docs, s₀.file .history = some docs → ∃ doc, docs = [doc] ∧ WellFormedHistory doc) :
    Supported World.answer (lockDiscipline parse calls s₀)
      (fun i e w => e = .ok 0 → Stored parse calls s₀ i w) (startRuns parse calls s₀) := by
  refine ⟨⟨by simp [startRuns, holdsLock], by simp [startRuns, holdsLock], ?_⟩, fun i => ?_⟩
  · intro docs hdocs
    obtain ⟨doc, rfl, hwf⟩ := hs₀ docs hdocs
    have hstore : storeOf s₀ = auditsOf doc := storeOf_some hdocs
    exact ⟨doc, rfl, hwf, fun pid a ha => Or.inl (by rwa [hstore])⟩
  · exact ⟨_, outside_stable, rfl, triple_auditHistoryAdd hdistinct⟩

/-- In every interleaving in which no run creates a lock or a history that appeared after
its test, at most one run is in its critical section and every run that returned 0 has
its pair in the history: by its own record, unless the pair was there at the start. -/
theorem guarded_adds_exclude_and_keep (parse : String → Option (List Json))
    (calls : ι → AddCall) (s₀ : FS)
    (hdistinct : Function.Injective fun i => ((calls i).programId, (calls i).version))
    (hs₀ : ∀ docs, s₀.file .history = some docs → ∃ doc, docs = [doc] ∧ WellFormedHistory doc)
    (schedule : List ι)
    (hguarded : Guarded World.answer CreatesAbsentFile (startRuns parse calls s₀) schedule) :
    let c := runSchedule World.answer (startRuns parse calls s₀) schedule
    (∀ i j, InCriticalSection c i → InCriticalSection c j → i = j) ∧
      ∀ i, c.procs i = .done 0 → Stored parse calls s₀ i c.shared := by
  intro c
  have hrun := (startRuns_supported parse calls s₀ hdistinct hs₀).run schedule hguarded
  exact ⟨fun i j hi hj => hrun.1.unique i j hi.2 hj.2, fun i hi => hrun.returned hi rfl⟩

/-! Two runs on an empty history, in a guarded order and in a racing one. -/

/-- `true` adds to one program and `false` to another. -/
def pairCalls (b : Bool) : AddCall :=
  { sampleCall "\x7b\x7d" with programId := if b then "Vault111" else "Swap222" }

theorem pairCalls_injective :
    Function.Injective fun b => ((pairCalls b).programId, (pairCalls b).version) := by
  intro a b h
  revert h
  cases a <;> cases b <;> decide

theorem sampleFiles_history (docs : Content) (h : sampleFiles.file .history = some docs) :
    ∃ doc, docs = [doc] ∧ WellFormedHistory doc :=
  ⟨emptyHistory, by simpa [sampleFiles, eq_comm] using h, emptyHistory_wellFormed⟩

/-- What a schedule of the two runs reaches. -/
def pairRuns (schedule : List Bool) : Config Bool FileOp FileReply Nat (World Bool) :=
  runSchedule World.answer (startRuns sampleParse pairCalls sampleFiles) schedule

/-- `false` waits while `true` holds the lock. -/
def waitingSchedule : List Bool :=
  [true, false, true, true, false] ++ List.replicate 8 true ++ List.replicate 10 false

theorem guarded_adds_exclude_and_keep_sample :
    (∀ i j, InCriticalSection (pairRuns waitingSchedule) i →
        InCriticalSection (pairRuns waitingSchedule) j → i = j) ∧
      Stored sampleParse pairCalls sampleFiles true (pairRuns waitingSchedule).shared ∧
      Stored sampleParse pairCalls sampleFiles false (pairRuns waitingSchedule).shared := by
  have h := guarded_adds_exclude_and_keep sampleParse pairCalls sampleFiles pairCalls_injective
    sampleFiles_history waitingSchedule (by decide)
  exact ⟨h.1, h.2 true rfl, h.2 false rfl⟩

def racingSchedule : List Bool := [true, true, false, false, true, false]

/-- Each run then reads the history before the other has renamed its own over it. -/
def losingSchedule : List Bool :=
  racingSchedule ++ List.replicate 5 true ++ List.replicate 4 false ++ List.replicate 3 true ++
    List.replicate 2 false

/-- Two runs hold the lock at once, and one that returned 0 has no record in the history. -/
theorem adds_race_for_the_lock :
    (InCriticalSection (pairRuns racingSchedule) true ∧
      InCriticalSection (pairRuns racingSchedule) false) ∧
    (pairRuns losingSchedule).procs true = .done 0 ∧
      ¬ Stored sampleParse pairCalls sampleFiles true (pairRuns losingSchedule).shared := by
  refine ⟨⟨⟨⟨_, _, rfl⟩, rfl⟩, ⟨⟨_, _, rfl⟩, rfl⟩⟩, rfl, ?_⟩
  have hlost : storeOf (pairRuns losingSchedule).shared.fs "Vault111" = [] := rfl
  rintro ⟨⟨a, ha, -⟩, -⟩
  exact absurd (hlost ▸ ha) (List.not_mem_nil)

end SolanaAuditor.History
