import ClassUsage.Expression.Parser

set_option autoImplicit false

/-!
Parsing many expressions with a memory of the ones already read. An entry of the memory is known
by the expression, its depth and the limit on depth; expressions that turned out to be nested too
deeply are not remembered, and entries may be forgotten at any time.
-/
namespace ClassUsage

structure MemoKey where
  text : Text
  depth : Nat
  limit : Int
deriving DecidableEq, Repr

structure Memo where
  entries : List (MemoKey × List ClassUse) := []
  /-- How often the memory has been written. -/
  clock : Nat := 0
deriving Repr

/-- Which entries are kept after each writing of the memory. -/
abbrev Retention := Nat → List (MemoKey × List ClassUse) → List (MemoKey × List ClassUse)

/-- Keeps the given number of entries written or found last. -/
def Retention.recent (capacity : Nat) : Retention := fun _ entries => entries.take capacity

/-- A computation with a memory, which also keeps what was read before a failure. -/
abbrev Remembering := ExceptT TooDeep (StateM Memo)

namespace Memo

def find? (memo : Memo) (key : MemoKey) : Option (List ClassUse) := memo.entries.lookup key

/-- The memory with an entry in front of all others, as far as it is kept. -/
def write (retention : Retention) (key : MemoKey) (uses : List ClassUse) (memo : Memo) : Memo :=
  let others := memo.entries.filter (·.1 ≠ key)
  ⟨retention memo.clock ((key, uses) :: others), memo.clock + 1⟩

end Memo

/-- The uses of an expression at a depth, looked up in the memory first. The first argument is the
number of levels that may still be opened. -/
def rememberedUses (retention : Retention) (limit : Int) :
    Nat → Nat → Text → Remembering (List ClassUse)
  | 0, _, _ => throw .tooDeep
  | levels + 1, depth, text => do
    let key : MemoKey := ⟨text.trim, depth, limit⟩
    let memo ← get
    let uses ←
      match memo.find? key with
      | some uses => pure uses
      | none => Shape.usesOf (rememberedUses retention limit levels (depth + 1)) text.trim
    modify (Memo.write retention key uses)
    pure uses

/-- The uses of an expression of the given form, with the memory that is left. -/
def parseRemembering (retention : Retention) (form : ExpressionForm) (limit : Int) (text : Text)
    (memo : Memo) : Option (List ClassUse) × Memo :=
  let uses (depth : Nat) := rememberedUses retention limit (levelsLeft limit depth) depth
  let (result, memo) := (form.usesOf (uses 0) (uses 1) text).run.run memo
  (matchOf result, memo)

structure ParseCall where
  form : ExpressionForm := .any
  limit : Int := defaultDepthLimit
  text : Text

/-- The results of several requests in turn, each with what the earlier ones left in the memory. -/
def parseAll (retention : Retention) : List ParseCall → Memo → List (Option (List ClassUse))
  | [], _ => []
  | call :: calls, memo =>
    let (result, memo) := parseRemembering retention call.form call.limit call.text memo
    result :: parseAll retention calls memo

end ClassUsage
