import SqlMapper.Error
import SqlMapper.Query

/-!
Running statements. A run has a value, leaves a state behind, and is noted down
line by line: texts that middlewares write, statements that drivers receive, and
events. A driver answers a statement from the state.
-/

namespace SqlMapper

structure Outcome where
  success : Bool
  rows : List Json
  lastInsertId : Option Scalar
deriving Inhabited

namespace Outcome

def empty : Outcome := ⟨true, [], none⟩

def failed : Outcome := ⟨false, [], none⟩

def withRows (rows : List Json) : Outcome := ⟨true, rows, none⟩

def inserted (id : Scalar) : Outcome := ⟨true, [], some id⟩

def firstRow (o : Outcome) : Option Json := o.rows.head?

end Outcome

abbrev Answer := Except Error Outcome

inductive Shown where
  | values (params : List Scalar)
  | count (n : Nat)

inductive Event where
  | query (sql : String) (params : Shown)
  | done (rows : Nat) (success : Bool)
  | failed (error : Error)
  | exhausted (sql : String)

inductive Note where
  | line (text : String)
  | statement (driver : String) (query : Query)
  | event (e : Event)

def Note.isEvent : Note → Bool
  | .event _ => true
  | _ => false

structure Ran (σ α : Type) where
  value : α
  state : σ
  notes : List Note

def Exec (σ α : Type) : Type := σ → Ran σ α

namespace Exec

variable {σ τ α β : Type}

def pure (a : α) : Exec σ α := fun s => ⟨a, s, []⟩

def bind (x : Exec σ α) (f : α → Exec σ β) : Exec σ β := fun s =>
  let first := x s
  let second := f first.value first.state
  ⟨second.value, second.state, first.notes ++ second.notes⟩

instance : Monad (Exec σ) where
  pure := Exec.pure
  bind := Exec.bind

@[simp] theorem pure_run (a : α) (s : σ) : (Pure.pure a : Exec σ α) s = ⟨a, s, []⟩ := rfl

@[simp] theorem bind_run (x : Exec σ α) (f : α → Exec σ β) (s : σ) :
    (x >>= f) s =
      ⟨(f (x s).value (x s).state).value, (f (x s).value (x s).state).state,
        (x s).notes ++ (f (x s).value (x s).state).notes⟩ := rfl

instance : LawfulMonad (Exec σ) := LawfulMonad.mk' _
  (fun x => by
    funext s
    show (⟨(x s).value, (x s).state, (x s).notes ++ []⟩ : Ran σ _) = x s
    simp)
  (fun _ _ => rfl)
  (fun x f g => by
    funext s
    simp [List.append_assoc])

def note (n : Note) : Exec σ Unit := fun s => ⟨(), s, [n]⟩

def get : Exec σ σ := fun s => ⟨s, s, []⟩

def set (s : σ) : Exec σ Unit := fun _ => ⟨(), s, []⟩

def onPart (part : τ → σ) (put : τ → σ → τ) (x : Exec σ α) : Exec τ α := fun t =>
  let r := x (part t)
  ⟨r.value, put t r.state, r.notes⟩

end Exec

structure Driver (σ : Type) where
  name : String
  respond : Query → σ → Answer × σ

def Driver.run {σ : Type} (d : Driver σ) (q : Query) : Exec σ Answer := fun s =>
  let (answer, s) := d.respond q s
  ⟨answer, s, [.statement d.name q]⟩

end SqlMapper
