/- SolanaAuditor/History/Files
   digest: The files of the history script and its atomic operations on them. -/

import SolanaAuditor.Json
import SolanaAuditor.Lib.Shell

set_option autoImplicit false
set_option relaxedAutoImplicit false

namespace SolanaAuditor.History

open SolanaAuditor.Lib.Shell

/-- The history, its lock `${AUDIT_HISTORY}.lock`, and the temporary files `mktemp` makes. -/
inductive File
  | history | lock | temp (n : Nat)
  deriving DecidableEq

/-- The JSON documents a file holds; the lock's line of text is no document. -/
abbrev Content := List Json

/-- One file-level operation of the script. -/
inductive FileOp
  /-- `[[ -f file ]]` -/
  | test (f : File)
  /-- `echo … > file` or `printf … > file` -/
  | echo (f : File) (c : Content)
  /-- `mktemp "${history_file}.XXXXXX"` -/
  | mktemp
  /-- `jq` opens the file and reads its documents. -/
  | read (f : File)
  /-- The output of `jq` goes to the file. -/
  | write (f : File) (c : Content)
  /-- `mv src dst` -/
  | mv (src dst : File)
  /-- `rm -f file` -/
  | rm (f : File)

/-- What an operation tells the script; `false` and `none` are failures. -/
abbrev FileReply : FileOp → Type
  | .test _ => Bool
  | .echo _ _ => Bool
  | .mktemp => Option Nat
  | .read _ => Option Content
  | .write _ _ => Bool
  | .mv _ _ => Bool
  | .rm _ => Unit

/-- The files, and the next name `mktemp` has not given out. -/
structure FS where
  file : File → Option Content
  next : Nat

namespace FS

def put (s : FS) (f : File) (c : Content) : FS :=
  { s with file := Function.update s.file f (some c) }

def del (s : FS) (f : File) : FS :=
  { s with file := Function.update s.file f none }

def fresh (s : FS) : FS :=
  { file := Function.update s.file (.temp s.next) (some []), next := s.next + 1 }

def move (s : FS) (src dst : File) (c : Content) : FS := (s.put dst c).del src

variable (s : FS) (f g : File) (c : Content)

@[simp] theorem put_self : (s.put f c).file f = some c := by simp [put]

@[simp] theorem put_next : (s.put f c).next = s.next := rfl

@[simp] theorem del_self : (s.del f).file f = none := by simp [del]

@[simp] theorem del_next : (s.del f).next = s.next := rfl

variable {f g} in
@[simp] theorem put_of_ne (h : g ≠ f) : (s.put f c).file g = s.file g :=
  Function.update_of_ne h _ _

variable {f g} in
@[simp] theorem del_of_ne (h : g ≠ f) : (s.del f).file g = s.file g :=
  Function.update_of_ne h _ _

@[simp] theorem fresh_self : s.fresh.file (.temp s.next) = some [] := by simp [fresh]

@[simp] theorem fresh_history : s.fresh.file .history = s.file .history := by simp [fresh]

@[simp] theorem fresh_lock : s.fresh.file .lock = s.file .lock := by simp [fresh]

@[simp] theorem fresh_next : s.fresh.next = s.next + 1 := rfl

end FS

/-- The one operation of a run that fails, if any. -/
inductive Fault
  | none | mktemp | jqWrite | mv
  deriving DecidableEq

/-- The reply to an operation and the files after it. -/
def answer (fault : Fault) (s : FS) : (o : FileOp) → FileReply o × FS
  | .test f => ((s.file f).isSome, s)
  | .echo f c => (true, s.put f c)
  | .mktemp => if fault = .mktemp then (Option.none, s) else (some s.next, s.fresh)
  | .read f => (s.file f, s)
  | .write f c => if fault = .jqWrite then (false, s.put f []) else (true, s.put f c)
  | .mv src dst =>
      match s.file src with
      | Option.none => (false, s)
      | some c => if fault = .mv then (false, s) else (true, s.move src dst c)
  | .rm f => ((), s.del f)

abbrev FileScript (α : Type) := Script FileOp FileReply α

/-- The operations, as commands of the script. -/
def test (f : File) : FileScript Bool := .act (.test f) .done
def echo (f : File) (c : Content) : FileScript Bool := .act (.echo f c) .done
def mktemp : FileScript (Option Nat) := .act .mktemp .done
def read (f : File) : FileScript (Option Content) := .act (.read f) .done
def write (f : File) (c : Content) : FileScript Bool := .act (.write f c) .done
def mv (src dst : File) : FileScript Bool := .act (.mv src dst) .done
def rm (f : File) : FileScript Unit := .act (.rm f) .done

end SolanaAuditor.History
