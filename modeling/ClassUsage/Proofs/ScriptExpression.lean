import ClassUsage.Proofs.Formula

set_option autoImplicit false

/-!
The expressions that conditions are written as, with their values, and the precedence of operators: how a
chain of operands with operators between them is put together. The conjunction of two chains holds when
both hold, unless one of them holds an operator that binds more loosely.
-/
namespace ClassUsage.Script

inductive Unary where
  | not
  | plus
  | minus
deriving DecidableEq, Repr

inductive Binary where
  | logical (op : Operator)
  | equal
  | unequal
  | same
  | different
  | less
  | greater
  | atMost
  | atLeast
  | plus
  | minus
  | times
  | divided
  | remainder
  | power
deriving DecidableEq, Repr

/-- Expressions. Members, indexes and calls are optional if they stand behind `?.`. -/
inductive Expression where
  | name (text : Text)
  | number (text : Text)
  | string (body : Text)
  | member (object : Expression) (optional : Bool) (name : Text)
  | index (object : Expression) (optional : Bool) (place : Expression)
  | call (callee : Expression) (optional : Bool) (arguments : List Expression)
  | group (inner : Expression)
  | unary (op : Unary) (inner : Expression)
  | binary (op : Binary) (left right : Expression)
  | conditional (test yes no : Expression)

/-- A choice of values. Names, literals, member paths, indexes and calls may have any values or none at
all, and so may arithmetic and comparisons, except that `== null` tells null and undefined from the rest. -/
structure Interpretation (α : Type) where
  isTruthy : α → Bool
  isNullish : α → Bool
  ofBool : Bool → α
  null : α
  operand : Expression → Option α
  signed : Unary → α → Option α
  compute : Binary → α → α → Option α
  isTruthy_ofBool (holds : Bool) : isTruthy (ofBool holds) = holds
  operand_null : operand (.name "null".toList) = some null
  equal_null (value : α) : compute .equal value null = some (ofBool (isNullish value))

namespace Interpretation

variable {α : Type} (interpretation : Interpretation α)

/-- Whether the value of the left side makes an operator go on to its right side. -/
def goesOn : Operator → α → Bool
  | .and, value => interpretation.isTruthy value
  | .or, value => !interpretation.isTruthy value
  | .nullish, value => interpretation.isNullish value

def value : Expression → Option α
  | .group inner => value inner
  | .unary .not inner => (value inner).map fun held =>
      interpretation.ofBool !interpretation.isTruthy held
  | .unary sign inner => (value inner).bind (interpretation.signed sign)
  | .binary (.logical op) left right => (value left).bind fun held =>
      if interpretation.goesOn op held then value right else some held
  | .binary op left right => (value left).bind fun first =>
      (value right).bind fun second => interpretation.compute op first second
  | .conditional test yes no => (value test).bind fun held =>
      if interpretation.isTruthy held then value yes else value no
  | expression => interpretation.operand expression

def Holds (expression : Expression) : Prop :=
  ∃ held ∈ interpretation.value expression, interpretation.isTruthy held = true

def Fails (expression : Expression) : Prop :=
  ∃ held ∈ interpretation.value expression, interpretation.isTruthy held = false

/-- The expression has a value, and this is null or undefined. -/
def IsNull (expression : Expression) : Prop :=
  ∃ held ∈ interpretation.value expression, interpretation.isNullish held = true

@[simp] theorem value_group (inner : Expression) :
    interpretation.value (.group inner) = interpretation.value inner := rfl

theorem holds_and (left right : Expression) :
    interpretation.Holds (.binary (.logical .and) left right) ↔
      interpretation.Holds left ∧ interpretation.Holds right := by
  have goesOn_iff : ∀ held, interpretation.goesOn .and held = true ↔
      interpretation.isTruthy held = true := fun _ => Iff.rfl
  simp only [Holds, value, Option.mem_def, Option.bind_eq_some_iff]
  constructor
  · rintro ⟨held, ⟨first, found, chosen⟩, truthy⟩
    by_cases goes : interpretation.goesOn .and first = true
    · rw [if_pos goes] at chosen
      exact ⟨⟨first, found, (goesOn_iff first).mp goes⟩, held, chosen, truthy⟩
    · rw [if_neg goes] at chosen
      cases chosen
      exact absurd ((goesOn_iff _).mpr truthy) goes
  · rintro ⟨⟨first, found, goes⟩, held, chosen, truthy⟩
    refine ⟨held, ⟨first, found, ?_⟩, truthy⟩
    rw [if_pos ((goesOn_iff first).mpr goes), chosen]

theorem holds_not (inner : Expression) :
    interpretation.Holds (.unary .not inner) ↔ interpretation.Fails inner := by
  simp only [Holds, Fails, value, Option.mem_def, Option.map_eq_some_iff]
  constructor
  · rintro ⟨held, ⟨first, found, rfl⟩, truthy⟩
    rw [interpretation.isTruthy_ofBool, Bool.not_eq_true'] at truthy
    exact ⟨first, found, truthy⟩
  · rintro ⟨first, found, falsy⟩
    refine ⟨_, ⟨first, found, rfl⟩, ?_⟩
    rw [interpretation.isTruthy_ofBool, falsy]
    rfl

theorem holds_equal_null (inner : Expression) :
    interpretation.Holds (.binary .equal inner (.name "null".toList)) ↔
      interpretation.IsNull inner := by
  have compared : interpretation.value (.binary .equal inner (.name "null".toList)) =
      (interpretation.value inner).map fun held =>
        interpretation.ofBool (interpretation.isNullish held) := by
    have null_value : interpretation.value (.name "null".toList) = some interpretation.null :=
      interpretation.operand_null
    have unfolded : interpretation.value (.binary .equal inner (.name "null".toList)) =
        (interpretation.value inner).bind fun first =>
          (interpretation.value (.name "null".toList)).bind fun second =>
            interpretation.compute .equal first second := rfl
    rw [unfolded, null_value]
    simp only [Option.bind_some, interpretation.equal_null, Option.map_eq_bind, Function.comp_def]
  simp only [Holds, IsNull, compared, Option.mem_def, Option.map_eq_some_iff]
  constructor
  · rintro ⟨held, ⟨first, found, rfl⟩, truthy⟩
    rw [interpretation.isTruthy_ofBool] at truthy
    exact ⟨first, found, truthy⟩
  · rintro ⟨first, found, nullish⟩
    refine ⟨_, ⟨first, found, rfl⟩, ?_⟩
    rw [interpretation.isTruthy_ofBool, nullish]

theorem holds_congr {first second : Expression}
    (same : interpretation.value first = interpretation.value second) :
    interpretation.Holds first ↔ interpretation.Holds second := by
  rw [Holds, Holds, same]

end Interpretation

/-- How tightly operators bind. -/
inductive Rank where
  | either
  | both
  | equality
  | order
  | sum
  | product
  | power
deriving DecidableEq, Repr

def Binary.rank : Binary → Rank
  | logical .or | logical .nullish => .either
  | logical .and => .both
  | equal | unequal | same | different => .equality
  | less | greater | atMost | atLeast => .order
  | plus | minus => .sum
  | times | divided | remainder => .product
  | power => .power

/-- The ranks of the operators that group to the left, the loosest first. -/
def leftRanks : List Rank := [.either, .both, .equality, .order, .sum, .product]

structure Chain where
  first : Expression
  rest : List (Binary × Expression) := []

/-- The links before the first operator of a rank, and what stands behind each operator of it. -/
def cut (rank : Rank) : List (Binary × Expression) → List (Binary × Expression) × List (Binary × Chain)
  | [] => ([], [])
  | (op, operand) :: rest =>
    if op.rank = rank then ([], (op, ⟨operand, (cut rank rest).1⟩) :: (cut rank rest).2)
    else ((op, operand) :: (cut rank rest).1, (cut rank rest).2)

def Expression.isUnary : Expression → Bool
  | unary _ _ => true
  | _ => false

/-- Puts together operands with powers between them, which group to the right. A sign in front of what is
raised to a power is not allowed. -/
def powers : Expression → List (Binary × Expression) → Option Expression
  | first, [] => some first
  | first, (op, next) :: rest =>
    if op = .power ∧ first.isUnary = false then (powers next rest).map (.binary .power first) else none

namespace Chain

/-- Puts together the operands of a chain, cut at the operators of the loosest rank first. -/
def resolve : List Rank → Chain → Option Expression
  | [], chain => powers chain.first chain.rest
  | rank :: tighter, chain => do
    let left ← resolve tighter ⟨chain.first, (cut rank chain.rest).1⟩
    let others ← (cut rank chain.rest).2.mapM fun piece => (resolve tighter piece.2).map (piece.1, ·)
    pure (others.foldl (fun left other => .binary other.1 left other.2) left)

/-- An operator `??` stands beside `&&` or `||`, which is not allowed. -/
def mixes (chain : Chain) : Bool :=
  chain.rest.any (·.1 == .logical .nullish) &&
    chain.rest.any fun link => link.1 == .logical .and || link.1 == .logical .or

def expression? (chain : Chain) : Option Expression :=
  if chain.mixes then none else chain.resolve leftRanks

def link (op : Binary) (left right : Chain) : Chain :=
  ⟨left.first, left.rest ++ (op, right.first) :: right.rest⟩

end Chain

/-- No operator of a rank. -/
def Hides (rank : Rank) (rest : List (Binary × Expression)) : Prop := ∀ link ∈ rest, link.1.rank ≠ rank

theorem cut_of_hides {rank : Rank} {rest : List (Binary × Expression)} (hides : Hides rank rest) :
    cut rank rest = (rest, []) := by
  induction rest with
  | nil => rfl
  | cons link rest ih =>
    obtain ⟨here, later⟩ := List.forall_mem_cons.mp hides
    obtain ⟨op, operand⟩ := link
    rw [cut, if_neg here, ih later]

theorem cut_append {op : Binary} {rank : Rank} (binds : op.rank = rank)
    (front : List (Binary × Expression)) (operand : Expression) (rest : List (Binary × Expression)) :
    cut rank (front ++ (op, operand) :: rest) =
      ((cut rank front).1,
        (cut rank front).2 ++ (op, ⟨operand, (cut rank rest).1⟩) :: (cut rank rest).2) := by
  induction front with
  | nil =>
    simp only [List.nil_append, cut, if_pos binds]
  | cons link front ih =>
    obtain ⟨other, first⟩ := link
    rw [List.cons_append, cut, cut, ih]
    split
    · rfl
    · rfl

/-- Each piece of a chain stands behind an operator of the rank at which it is cut. -/
theorem rank_of_mem_cut {rank : Rank} {rest : List (Binary × Expression)} {piece : Binary × Chain}
    (member : piece ∈ (cut rank rest).2) : piece.1.rank = rank := by
  induction rest with
  | nil => cases member
  | cons link rest ih =>
    obtain ⟨op, operand⟩ := link
    rw [cut] at member
    split at member
    · rename_i binds
      rcases List.mem_cons.mp member with rfl | later
      · exact binds
      · exact ih later
    · exact ih member

namespace Chain

/-- A rank without operators makes no difference. -/
theorem resolve_of_hides {rank : Rank} {chain : Chain} (hides : Hides rank chain.rest)
    (tighter : List Rank) : resolve (rank :: tighter) chain = resolve tighter chain := by
  rw [resolve, cut_of_hides hides]
  simp

theorem mixes_of_hides {chain : Chain} (hides : Hides .either chain.rest) : chain.mixes = false := by
  have noNullish : chain.rest.any (·.1 == .logical .nullish) = false := by
    rw [List.any_eq_false]
    intro link member
    have loose := hides link member
    intro same
    exact loose (by rw [eq_of_beq same]; rfl)
  rw [mixes, noNullish, Bool.false_and]

theorem expression?_of_hides {chain : Chain} (hides : Hides .either chain.rest) :
    chain.expression? = resolve [.both, .equality, .order, .sum, .product] chain := by
  rw [expression?, mixes_of_hides hides]
  exact resolve_of_hides hides _

/-- An operand on its own. -/
theorem expression?_single (operand : Expression) : expression? ⟨operand, []⟩ = some operand := rfl

theorem expression?_compared (left right : Expression) :
    expression? ⟨left, [(.equal, right)]⟩ = some (.binary .equal left right) := rfl

end Chain

section

variable {α : Type} (interpretation : Interpretation α)

/-- A row of conjunctions holds when all its parts hold. -/
theorem holds_foldl {others : List (Binary × Expression)}
    (both : ∀ other ∈ others, other.1 = .logical .and) (left : Expression) :
    interpretation.Holds (others.foldl (fun left other => .binary other.1 left other.2) left) ↔
      interpretation.Holds left ∧ ∀ other ∈ others, interpretation.Holds other.2 := by
  induction others generalizing left with
  | nil => simp
  | cons other others ih =>
    obtain ⟨here, later⟩ := List.forall_mem_cons.mp both
    rw [List.foldl_cons, ih later, here, interpretation.holds_and, List.forall_mem_cons, and_assoc]

theorem eq_and_of_rank {op : Binary} (binds : op.rank = .both) : op = .logical .and := by
  cases op with
  | logical op =>
    cases op with
    | and => rfl
    | or => cases binds
    | nullish => cases binds
  | _ => cases binds

end

namespace Chain

theorem ops_of_mapM {read : Chain → Option Expression} {pieces : List (Binary × Chain)}
    {others : List (Binary × Expression)}
    (found : (pieces.mapM fun piece => (read piece.2).map (piece.1, ·)) = some others) :
    others.map Prod.fst = pieces.map Prod.fst := by
  induction pieces generalizing others with
  | nil =>
    cases found
    rfl
  | cons piece pieces ih =>
    simp only [List.mapM_cons, Option.bind_eq_bind, Option.bind_eq_some_iff, Option.map_eq_some_iff,
      Option.pure_def, Option.some.injEq] at found
    obtain ⟨_, ⟨operand, -, rfl⟩, later, laterFound, rfl⟩ := found
    rw [List.map_cons, List.map_cons, ih laterFound]

/-- The parts of a chain between conjunctions. -/
theorem resolve_both_eq_some_iff {tighter : List Rank} {chain : Chain} {expression : Expression} :
    resolve (.both :: tighter) chain = some expression ↔
      ∃ left others,
        resolve tighter ⟨chain.first, (cut .both chain.rest).1⟩ = some left ∧
        ((cut .both chain.rest).2.mapM fun piece => (resolve tighter piece.2).map (piece.1, ·)) =
          some others ∧
        others.foldl (fun left other => .binary other.1 left other.2) left = expression := by
  simp only [resolve, Option.bind_eq_bind, Option.bind_eq_some_iff, Option.pure_def,
    Option.some.injEq, exists_and_left]

theorem eq_and_of_mem {chain : Chain} {read : Chain → Option Expression}
    {others : List (Binary × Expression)}
    (found : ((cut .both chain.rest).2.mapM fun piece => (read piece.2).map (piece.1, ·)) = some others) :
    ∀ other ∈ others, other.1 = .logical .and := by
  intro other member
  have listed : other.1 ∈ (cut .both chain.rest).2.map Prod.fst := by
    rw [← ops_of_mapM found]
    exact List.mem_map_of_mem member
  obtain ⟨piece, inCut, same⟩ := List.mem_map.mp listed
  exact eq_and_of_rank (same ▸ rank_of_mem_cut inCut)

/-- With `&&` between them, two chains without looser operators hold when both hold. -/
theorem exists_conjunction {left right : Chain} {first second : Expression}
    (front : Hides .either left.rest) (back : Hides .either right.rest)
    (readsFirst : left.expression? = some first) (readsSecond : right.expression? = some second) :
    ∃ both, (link (.logical .and) left right).expression? = some both ∧
      ∀ {α : Type} (interpretation : Interpretation α),
        interpretation.Holds both ↔ interpretation.Holds first ∧ interpretation.Holds second := by
  have together : Hides .either (link (.logical .and) left right).rest := by
    intro joint member
    rcases List.mem_append.mp member with inLeft | behind
    · exact front joint inLeft
    · rcases List.mem_cons.mp behind with rfl | inRight
      · exact Rank.noConfusion
      · exact back joint inRight
  rw [expression?_of_hides front, resolve_both_eq_some_iff] at readsFirst
  rw [expression?_of_hides back, resolve_both_eq_some_iff] at readsSecond
  obtain ⟨start, others, readsStart, readsOthers, rfl⟩ := readsFirst
  obtain ⟨middle, further, readsMiddle, readsFurther, rfl⟩ := readsSecond
  have parts : cut .both (link (.logical .and) left right).rest =
      ((cut .both left.rest).1, (cut .both left.rest).2 ++
        (.logical .and, ⟨right.first, (cut .both right.rest).1⟩) :: (cut .both right.rest).2) :=
    cut_append (show Binary.rank (.logical .and) = .both from rfl) left.rest right.first right.rest
  refine ⟨(others ++ (.logical .and, middle) :: further).foldl
    (fun left other => .binary other.1 left other.2) start, ?_, ?_⟩
  · rw [expression?_of_hides together, resolve_both_eq_some_iff, parts]
    refine ⟨start, _, readsStart, ?_, rfl⟩
    simp only [List.mapM_append, List.mapM_cons, readsOthers, readsMiddle, readsFurther,
      Option.map_some, Option.bind_eq_bind, Option.bind_some, Option.pure_def]
  · intro α interpretation
    have ands := eq_and_of_mem readsOthers
    have furtherAnds := eq_and_of_mem readsFurther
    have allAnds : ∀ other ∈ others ++ (Binary.logical .and, middle) :: further,
        other.1 = .logical .and := by
      intro other member
      rcases List.mem_append.mp member with inOthers | behind
      · exact ands other inOthers
      · rcases List.mem_cons.mp behind with rfl | inFurther
        · rfl
        · exact furtherAnds other inFurther
    rw [holds_foldl interpretation allAnds, holds_foldl interpretation ands,
      holds_foldl interpretation furtherAnds, List.forall_mem_append, List.forall_mem_cons, and_assoc]

end Chain
end ClassUsage.Script
