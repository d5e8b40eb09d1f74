import ClassUsage.Proofs.ScriptLooseOperators
import ClassUsage.Proofs.ScriptSimpleOperand

set_option autoImplicit false

/-!
Conditions put together from texts, read as expressions. Where the text of a part is put in as it is, its
operators bind tightly enough for what is put beside it, so that the whole has the meaning that its parts
call for.
-/
namespace ClassUsage.Script

/-- Operators in front of operands, and operators between operands that bind at least as tightly as `&&`. -/
def Unfinished.isTight : Unfinished → Prop
  | unary _ => True
  | link _ op => op.rank ≠ .either
  | group | index _ _ | call _ _ _ | yes _ | no _ _ => False

/-- The chain that operators on the stack form with what stands behind them. -/
def collect : List Unfinished → Chain → Chain
  | .unary op :: rest, ⟨first, links⟩ => collect rest ⟨.unary op first, links⟩
  | .link left op :: rest, ⟨first, links⟩ => collect rest ⟨left, (op, first) :: links⟩
  | _, chain => chain

theorem reduce_append_of_tight {stack : List Unfinished} (tight : ∀ part ∈ stack, part.isTight)
    (base : List Unfinished) (chain : Chain) :
    reduce (stack ++ base) ⟨chain, none⟩ = reduce base ⟨collect stack chain, none⟩ := by
  induction stack generalizing chain with
  | nil => rfl
  | cons part rest ih =>
    obtain ⟨here, later⟩ := List.forall_mem_cons.mp tight
    obtain ⟨first, links⟩ := chain
    cases part with
    | unary op => exact ih later _
    | link left op => exact ih later _
    | _ => cases here

theorem hides_collect {stack : List Unfinished} (tight : ∀ part ∈ stack, part.isTight) {chain : Chain}
    (hides : Hides .either chain.rest) : Hides .either (collect stack chain).rest := by
  induction stack generalizing chain with
  | nil => exact hides
  | cons part rest ih =>
    obtain ⟨here, later⟩ := List.forall_mem_cons.mp tight
    obtain ⟨first, links⟩ := chain
    cases part with
    | unary op => exact ih later hides
    | link left op => exact ih later (List.forall_mem_cons.mpr ⟨here, hides⟩)
    | _ => cases here

/-- What stands at the end of a chain is not affected by what is collected before it. -/
theorem collect_append (stack : List Unfinished) (first : Expression)
    (links more : List (Binary × Expression)) :
    collect stack ⟨first, links ++ more⟩ =
      ⟨(collect stack ⟨first, links⟩).first, (collect stack ⟨first, links⟩).rest ++ more⟩ := by
  induction stack generalizing first links with
  | nil => rfl
  | cons part rest ih =>
    cases part with
    | unary op => exact ih _ _
    | link left op => exact ih left ((op, first) :: links)
    | _ => rfl

/-- A stack without loose operators is put together as a chain. -/
theorem reduce_eq_some_iff_of_tight {stack : List Unfinished} (tight : ∀ part ∈ stack, part.isTight)
    {chain : Chain} {expression : Expression} :
    reduce stack ⟨chain, none⟩ = some (expression, []) ↔
      (collect stack chain).expression? = some expression := by
  have joined := reduce_append_of_tight tight [] chain
  have ends : Closable [] := nofun
  rw [List.append_nil, reduce_of_closable ends, Span.expression?, Option.map_id_fun', id] at joined
  rw [joined]
  simp

theorem expression?_eq_some_iff_of_filled {operand expression : Expression} {stack : List Unfinished} :
    Parse.expression? ⟨.filled operand, stack⟩ = some expression ↔
      reduce stack ⟨⟨operand, []⟩, none⟩ = some (expression, []) := by
  have shape : Parse.content ⟨.filled operand, stack⟩ =
      (reduce stack ⟨⟨operand, []⟩, none⟩).map fun found => (some found.1, found.2) := rfl
  rw [Parse.expression?_eq_some_iff, shape, Option.map_eq_some_iff]
  constructor
  · rintro ⟨⟨found, below⟩, reduced, same⟩
    cases same
    exact reduced
  · exact fun reduced => ⟨_, reduced, rfl⟩

/-- A complete expression has an operand at its end, and nothing is still open before it. -/
theorem exists_filled {parse : Parse} {expression : Expression}
    (whole : parse.expression? = some expression) :
    ∃ operand stack, parse = ⟨.filled operand, stack⟩ ∧
      reduce stack ⟨⟨operand, []⟩, none⟩ = some (expression, []) ∧
        ∀ part ∈ stack, part.isOpen = false := by
  have content := Parse.expression?_eq_some_iff.mp whole
  obtain ⟨slot, stack⟩ := parse
  cases slot with
  | empty => cases content
  | pointed object optional => cases content
  | filled operand =>
    have reduced := expression?_eq_some_iff_of_filled.mp whole
    obtain ⟨-, above, rfl, finished⟩ := closable_of_reduce reduced
    refine ⟨operand, _, rfl, reduced, ?_⟩
    rwa [List.append_nil]

theorem readAll_bracketed {text : Text} {expression : Expression} (reads : read text = some expression) :
    readAll (Condition.bracketed text) = some ⟨.filled (.group expression), []⟩ :=
  readAll_eq_some_iff.mpr ⟨_, run_bracketed reads [], rfl⟩

/-- A text is read behind what has been begun as it is read on its own. -/
theorem readAll_behind {text : Text} {operand : Expression} {stack : List Unfinished}
    (reads : readAll text = some ⟨.filled operand, stack⟩) (base : List Unfinished) :
    ((State.fresh.atop base).run text).bind State.settled =
      some ⟨.filled operand, stack ++ base⟩ := by
  obtain ⟨state, run, settles⟩ := readAll_eq_some_iff.mp reads
  rw [State.run_atop run, Option.bind_some, State.settled_atop settles]
  rfl

theorem readAll_conjoined {left right : Text} {first second : Expression}
    {above stack : List Unfinished} (readsLeft : readAll left = some ⟨.filled first, above⟩)
    (readsRight : readAll right = some ⟨.filled second, stack⟩) :
    readAll (left ++ " && ".toList ++ right) =
      some ⟨.filled second, stack ++ .link first (.logical .and) :: above⟩ := by
  have shape : left ++ " && ".toList ++ right = left ++ ' ' :: ("&& ".toList ++ right) := by
    rw [List.append_assoc]
    rfl
  have between : State.run ⟨⟨.filled first, above⟩, .idle⟩ "&& ".toList =
      some (State.fresh.atop (.link first (.logical .and) :: above)) := rfl
  have front := run_append_breaks readsLeft (c := ' ') (by decide) ("&& ".toList ++ right) []
  rw [Parse.atop, List.append_nil] at front
  rw [readAll, shape]
  have start : State.fresh.atop [] = State.fresh := rfl
  have blank : State.start ⟨.filled first, above⟩ ' ' = some ⟨⟨.filled first, above⟩, .idle⟩ := rfl
  rw [← start, front, blank, Option.bind_some, State.run_append, between, Option.bind_some,
    readAll_behind readsRight]

theorem read_of_readAll {text : Text} {operand expression : Expression} {stack : List Unfinished}
    (reads : readAll text = some ⟨.filled operand, stack⟩)
    (reduced : reduce stack ⟨⟨operand, []⟩, none⟩ = some (expression, [])) :
    read text = some expression :=
  read_eq_some_iff.mpr ⟨_, reads, expression?_eq_some_iff_of_filled.mpr reduced⟩

theorem collect_link (stack : List Unfinished) (first : Expression) (op : Binary) (right : Chain) :
    collect (.link first op :: stack) right = Chain.link op (collect stack ⟨first, []⟩) right :=
  collect_append stack first [] _

theorem collect_above {stack : List Unfinished} (tight : ∀ part ∈ stack, part.isTight)
    (base : List Unfinished) (chain : Chain) :
    collect (stack ++ base) chain = collect base (collect stack chain) := by
  induction stack generalizing chain with
  | nil => rfl
  | cons part rest ih =>
    obtain ⟨here, later⟩ := List.forall_mem_cons.mp tight
    obtain ⟨first, links⟩ := chain
    cases part with
    | unary op => exact ih later _
    | link left op => exact ih later _
    | _ => cases here

/-- A text in which no search finds a loose operator has been read with tight ones only. -/
theorem isTight_of_not_isLoose {text : Text} {operand : Expression} {stack : List Unfinished}
    (reads : readAll text = some ⟨.filled operand, stack⟩)
    (finished : ∀ part ∈ stack, part.isOpen = false) (tight : ¬ IsLoose text) :
    ∀ part ∈ stack, part.isTight := by
  intro part member
  have notLoose : part.isLoose = false := by
    rw [Bool.eq_false_iff]
    intro loose
    apply tight
    apply isLoose_of_readAll reads nofun
    refine ⟨part, ?_, loose⟩
    rwa [outside_of_brackets_eq_nil (brackets_of_finished finished)]
  have notOpen := finished part member
  cases part with
  | unary op => trivial
  | link left op => exact beq_eq_false_iff_ne.mp notLoose
  | no test yes => cases notLoose
  | _ => cases notOpen

/-- As an operand of `&&` a condition is read as a chain of tight operators, with the value that it has on
its own. -/
theorem exists_chain_of_group {text : Text} {expression : Expression}
    (reads : read text = some expression) :
    ∃ operand stack whole, readAll (Condition.group text) = some ⟨.filled operand, stack⟩ ∧
      (∀ part ∈ stack, part.isTight) ∧
        (collect stack ⟨operand, []⟩).expression? = some whole ∧
          ∀ {α : Type} (interpretation : Interpretation α),
            interpretation.value whole = interpretation.value expression := by
  by_cases loose : (hasOperator [orToken, nullishToken] text || isConditional text) = true
  · rw [Condition.group, if_pos loose]
    exact ⟨_, [], .group expression, readAll_bracketed reads, List.forall_mem_nil _,
      Chain.expression?_single _, fun interpretation => interpretation.value_group expression⟩
  · rw [Condition.group, if_neg loose]
    obtain ⟨parse, all, whole⟩ := read_eq_some_iff.mp reads
    obtain ⟨operand, stack, rfl, reduced, finished⟩ := exists_filled whole
    have tight := isTight_of_not_isLoose all finished fun shown => loose shown.found
    exact ⟨operand, stack, expression, all, tight, (reduce_eq_some_iff_of_tight tight).mp reduced,
      fun interpretation => rfl⟩

theorem exists_conjoined {left right : Text} {first second : Expression}
    (readsLeft : read left = some first) (readsRight : read right = some second) :
    ∃ both, read (Condition.conjoin left (some right)) = some both ∧
      ∀ {α : Type} (interpretation : Interpretation α),
        interpretation.Holds both ↔ interpretation.Holds first ∧ interpretation.Holds second := by
  obtain ⟨firstOperand, above, firstWhole, allLeft, tightLeft, chainLeft, sameLeft⟩ :=
    exists_chain_of_group readsLeft
  obtain ⟨secondOperand, stack, secondWhole, allRight, tightRight, chainRight, sameRight⟩ :=
    exists_chain_of_group readsRight
  have front : Hides .either (collect above ⟨firstOperand, []⟩).rest :=
    hides_collect tightLeft (List.forall_mem_nil _)
  have back : Hides .either (collect stack ⟨secondOperand, []⟩).rest :=
    hides_collect tightRight (List.forall_mem_nil _)
  obtain ⟨both, chain, holds⟩ := Chain.exists_conjunction front back chainLeft chainRight
  have tight : ∀ part ∈ stack ++ .link firstOperand (.logical .and) :: above, part.isTight := by
    intro part member
    rcases List.mem_append.mp member with inRight | behind
    · exact tightRight part inRight
    · rcases List.mem_cons.mp behind with rfl | inLeft
      · exact Rank.noConfusion
      · exact tightLeft part inLeft
  refine ⟨both, read_of_readAll (readAll_conjoined allLeft allRight) ?_, ?_⟩
  · rw [reduce_eq_some_iff_of_tight tight, collect_above tightRight, collect_link]
    exact chain
  · intro α interpretation
    rw [holds interpretation, interpretation.holds_congr (sameLeft interpretation),
      interpretation.holds_congr (sameRight interpretation)]

/-- Operators in front of an operand make one operand of it, whatever stands behind. -/
theorem exists_collected {stack : List Unfinished} (plain : ∀ part ∈ stack, ∃ op, part = .unary op)
    (operand : Expression) :
    ∃ inner, ∀ links, collect stack ⟨operand, links⟩ = ⟨inner, links⟩ := by
  induction stack generalizing operand with
  | nil => exact ⟨operand, fun links => rfl⟩
  | cons part rest ih =>
    obtain ⟨⟨op, rfl⟩, later⟩ := List.forall_mem_cons.mp plain
    exact ih later (.unary op operand)

theorem head_of_isSimple {text : Text} (trimmed : text.trim = text)
    (simple : Condition.isSimple text = true) : text.head? ≠ some '=' := by
  intro head
  obtain ⟨rest, rfl⟩ := List.head?_eq_some_iff.mp head
  rcases (Bool.or_eq_true _ _).mp simple with operand | enclosed
  · rw [Text.isSimpleOperand, Text.dropFinalNewline_of_trimmed trimmed] at operand
    cases operand
  · rw [unwrap, trimmed] at enclosed
    cases enclosed

/-- The operand that `!` and comparisons are applied to. -/
structure IsOperand (text : Text) (expression : Expression) (operand : Expression)
    (stack : List Unfinished) (inner : Expression) : Prop where
  reads : readAll text = some ⟨.filled operand, stack⟩
  tight : ∀ part ∈ stack, part.isTight
  collected : ∀ links, collect stack ⟨operand, links⟩ = ⟨inner, links⟩
  same : ∀ {α : Type} (interpretation : Interpretation α),
    interpretation.value inner = interpretation.value expression
  head : text.head? ≠ some '='

theorem exists_isOperand {text : Text} {expression : Expression}
    (reads : read text = some expression) (trimmed : text.trim = text) :
    ∃ operand stack inner,
      IsOperand (if Condition.isSimple text then text else Condition.bracketed text) expression operand
        stack inner := by
  by_cases simple : Condition.isSimple text = true
  · rw [if_pos simple]
    obtain ⟨parse, all, whole⟩ := read_eq_some_iff.mp reads
    have plain := unary_of_isSimple all whole trimmed simple
    obtain ⟨operand, stack, rfl, reduced, finished⟩ := exists_filled whole
    obtain ⟨inner, collected⟩ := exists_collected plain operand
    have tight : ∀ part ∈ stack, part.isTight := by
      intro part member
      obtain ⟨op, rfl⟩ := plain part member
      trivial
    have same : inner = expression := by
      rw [reduce_eq_some_iff_of_tight tight, collected, Chain.expression?_single] at reduced
      exact Option.some.inj reduced
    subst same
    exact ⟨operand, stack, inner, all, tight, collected, fun _ => rfl, head_of_isSimple trimmed simple⟩
  · rw [if_neg simple]
    exact ⟨_, [], .group expression, readAll_bracketed reads, List.forall_mem_nil _, fun _ => rfl,
      fun interpretation => interpretation.value_group expression, by simp [Condition.bracketed]⟩

/-- Behind `!`, a character that does not make another sign of it is read as it is read otherwise. -/
theorem step_behind_not {c : Char} (different : c ≠ '=') :
    State.step ⟨{}, .sign Sign.not.text⟩ c = (State.fresh.atop [.unary .not]).step c := by
  have known : ∀ sign ∈ signTexts, sign.head? = some '!' →
      sign.tail.head? = none ∨ sign.tail.head? = some '=' := by
    decide
  have ends : beginsSign ['!', c] = false := by
    rw [Bool.eq_false_iff]
    intro begins
    obtain ⟨sign, listed, front⟩ := List.any_eq_true.mp begins
    obtain ⟨rest, rfl⟩ := List.isPrefixOf_iff_prefix.mp front
    rcases known _ listed rfl with none | equal
    · cases none
    · exact different (Option.some.inj equal)
  have noPoint : (c.isDigit && Sign.not.text == Sign.point.text) = false := Bool.and_false _
  have noChoice : (c.isDigit && Sign.not.text == Sign.optionalPoint.text) = false := Bool.and_false _
  have extended : (Pending.sign Sign.not.text).extend c = none := by
    have appended : Sign.not.text ++ [c] = ['!', c] := rfl
    rw [Pending.extend, appended, ends, noPoint]
    rfl
  have goes : State.step ⟨{}, .sign Sign.not.text⟩ c = State.next ⟨{}, .sign Sign.not.text⟩ c := by
    unfold State.step
    rw [extended]
    simp only [noChoice, Bool.false_eq_true, ↓reduceIte]
  rw [goes]
  rfl

theorem readAll_negated {text : Text} {operand : Expression} {stack : List Unfinished}
    (reads : readAll text = some ⟨.filled operand, stack⟩) (head : text.head? ≠ some '=') :
    readAll ('!' :: text) = some ⟨.filled operand, stack ++ [.unary .not]⟩ := by
  cases text with
  | nil => cases reads
  | cons c rest =>
    have different : c ≠ '=' := by
      rintro rfl
      exact head rfl
    have opens : State.fresh.step '!' = some ⟨{}, .sign Sign.not.text⟩ := rfl
    rw [readAll, State.run, opens, Option.bind_some, State.run, step_behind_not different,
      ← readAll_behind reads]
    rfl

theorem readAll_compared {text : Text} {operand : Expression} {stack : List Unfinished}
    (reads : readAll text = some ⟨.filled operand, stack⟩) :
    readAll (text ++ " == null".toList) =
      some ⟨.filled (.name "null".toList), .link operand .equal :: stack⟩ := by
  have front := run_append_breaks reads (c := ' ') (by decide) "== null".toList []
  rw [Parse.atop, List.append_nil] at front
  have start : State.fresh.atop [] = State.fresh := rfl
  have shape : text ++ " == null".toList = text ++ ' ' :: "== null".toList := rfl
  rw [readAll, shape, ← start, front]
  rfl

theorem exists_negated {text : Text} {expression : Expression} (reads : read text = some expression)
    (trimmed : text.trim = text) :
    ∃ negated, read (Condition.negate text) = some negated ∧
      ∀ {α : Type} (interpretation : Interpretation α),
        interpretation.Holds negated ↔ interpretation.Fails expression := by
  obtain ⟨operand, stack, inner, is⟩ := exists_isOperand reads trimmed
  refine ⟨.unary .not inner, read_of_readAll (readAll_negated is.reads is.head) ?_, ?_⟩
  · rw [reduce_append_of_tight is.tight, is.collected]
    rfl
  · intro α interpretation
    rw [interpretation.holds_not, Interpretation.Fails, is.same interpretation]
    rfl

theorem exists_compared {text : Text} {expression : Expression} (reads : read text = some expression)
    (trimmed : text.trim = text) :
    ∃ compared, read (Condition.isNull text) = some compared ∧
      ∀ {α : Type} (interpretation : Interpretation α),
        interpretation.Holds compared ↔ interpretation.IsNull expression := by
  obtain ⟨operand, stack, inner, is⟩ := exists_isOperand reads trimmed
  refine ⟨.binary .equal inner (.name "null".toList), read_of_readAll (readAll_compared is.reads) ?_, ?_⟩
  · have tight : ∀ part ∈ Unfinished.link operand .equal :: stack, part.isTight :=
      List.forall_mem_cons.mpr ⟨Rank.noConfusion, is.tight⟩
    rw [reduce_eq_some_iff_of_tight tight, collect, is.collected]
    exact Chain.expression?_compared inner _
  · intro α interpretation
    rw [interpretation.holds_equal_null, Interpretation.IsNull, is.same interpretation]
    rfl

/-- Conditions keep their meaning when they are put together: what is joined holds when both hold, what is
negated holds when the condition fails, and the comparison with null holds when there is no value. -/
theorem conditions_keep_meaning {left right : Text} {first second : Expression}
    (readsLeft : read left = some first) (readsRight : read right = some second)
    (trimmed : left.trim = left) :
    (∃ both, read (Condition.conjoin left (some right)) = some both ∧
      ∀ {α : Type} (interpretation : Interpretation α),
        interpretation.Holds both ↔ interpretation.Holds first ∧ interpretation.Holds second) ∧
    (∃ negated, read (Condition.negate left) = some negated ∧
      ∀ {α : Type} (interpretation : Interpretation α),
        interpretation.Holds negated ↔ interpretation.Fails first) ∧
    ∃ compared, read (Condition.isNull left) = some compared ∧
      ∀ {α : Type} (interpretation : Interpretation α),
        interpretation.Holds compared ↔ interpretation.IsNull first :=
  ⟨exists_conjoined readsLeft readsRight, exists_negated readsLeft trimmed,
    exists_compared readsLeft trimmed⟩

/-- Names with values, where everything else that is no operator counts as true. -/
def Interpretation.ofNames (named : Text → Value) : Interpretation Value where
  isTruthy := Value.isTruthy
  isNullish := Value.isNull
  ofBool := Value.ofBool
  null := .null
  operand
    | .name text => some (if text = "null".toList then .null else named text)
    | _ => some .truthy
  signed _ _ := none
  compute
    | .equal, value, .null => some (Value.ofBool value.isNull)
    | _, _, _ => none
  isTruthy_ofBool holds := by cases holds <;> rfl
  operand_null := rfl
  equal_null value := rfl

theorem conditions_keep_meaning_hidden :
    ∃ both negated compared,
      read "(a ?? b[\x22](\x22]) && (c ?.5 : d || e)".toList = some both ∧
      read "!(a ?? b[\x22](\x22])".toList = some negated ∧
      read "(a ?? b[\x22](\x22]) == null".toList = some compared ∧
      (Interpretation.ofNames fun _ => .truthy).Holds both ∧
      ¬ (Interpretation.ofNames fun _ => .truthy).Holds negated ∧
      ¬ (Interpretation.ofNames fun _ => .truthy).Holds compared := by
  obtain ⟨⟨both, readsBoth, both_iff⟩, ⟨negated, readsNegated, negated_iff⟩,
    compared, readsCompared, compared_iff⟩ :=
    @conditions_keep_meaning "a ?? b[\x22](\x22]".toList "c ?.5 : d || e".toList _ _ rfl rfl
      (by decide)
  refine ⟨both, negated, compared, ?_, ?_, ?_, ?_, ?_, ?_⟩
  · exact readsBoth
  · exact readsNegated
  · exact readsCompared
  · rw [both_iff]
    exact ⟨⟨.truthy, rfl, rfl⟩, ⟨.truthy, rfl, rfl⟩⟩
  · rw [negated_iff]
    rintro ⟨held, found, falsy⟩
    cases found
    cases falsy
  · rw [compared_iff]
    rintro ⟨held, found, nullish⟩
    cases found
    cases nullish

end ClassUsage.Script
