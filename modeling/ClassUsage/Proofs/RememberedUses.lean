import ClassUsage.Expression.Session
import ClassUsage.Proofs.ReadingSimulation

set_option autoImplicit false

/-!
Parsing with a memory of the expressions already read. As long as the memory holds nothing but the answers
of the parser without one, it makes no difference, and whatever is read adds only such answers to it.
-/
namespace ClassUsage

/-- Whatever is kept was there before: entries are forgotten, never made up. A remembered answer is
written again when it is used, so to forget it at any later time is to forget it at its last writing. -/
def Retention.OnlyForgets (retention : Retention) : Prop :=
  ∀ clock entries, retention clock entries ⊆ entries

theorem Retention.onlyForgets_recent (capacity : Nat) : (recent capacity).OnlyForgets :=
  fun _ entries => List.take_subset capacity entries

namespace Memo

/-- Every entry is the answer that its expression has at its depth and under its limit. -/
def IsFaithful (memo : Memo) : Prop :=
  ∀ entry ∈ memo.entries,
    usesWithin (levelsLeft entry.1.limit entry.1.depth) entry.1.text = .ok entry.2

theorem isFaithful_empty : IsFaithful {} := by
  intro entry member
  cases member

theorem IsFaithful.find {memo : Memo} (faithful : memo.IsFaithful) {key : MemoKey}
    {uses : List ClassUse} (found : memo.find? key = some uses) :
    usesWithin (levelsLeft key.limit key.depth) key.text = .ok uses := by
  obtain ⟨before, after, entries, -⟩ := List.lookup_eq_some_iff.mp found
  exact faithful (key, uses) (by simp [entries])

/-- Writing an answer of the parser down, and forgetting entries, keeps a memory faithful. -/
theorem IsFaithful.write {memo : Memo} (faithful : memo.IsFaithful) {retention : Retention}
    (forgets : retention.OnlyForgets) {key : MemoKey} {uses : List ClassUse}
    (answered : usesWithin (levelsLeft key.limit key.depth) key.text = .ok uses) :
    (Memo.write retention key uses memo).IsFaithful := by
  intro entry kept
  rcases List.mem_cons.mp (forgets memo.clock _ kept) with rfl | old
  · exact answered
  · exact faithful entry (List.mem_of_mem_filter old)

end Memo

/-- A computation with a memory corresponds to one without if, from a faithful memory, it has the same
result and leaves a faithful memory. -/
def Simulation.remembering : Simulation Remembering (Except TooDeep) where
  Relates remembered plain := ∀ memo : Memo, memo.IsFaithful →
    (remembered.run.run memo).1 = plain ∧ (remembered.run.run memo).2.IsFaithful
  relates_pure _ memo faithful := ⟨rfl, faithful⟩
  relates_bind := by
    intro α β first second next other related later memo faithful
    obtain ⟨same, kept⟩ := related memo faithful
    rw [← same, ExceptT.run_bind, StateT.run_bind]
    generalize first.run.run memo = read at kept
    obtain ⟨result, left⟩ := read
    cases result with
    | ok value => exact later value left kept
    | error reason => exact ⟨rfl, kept⟩

theorem run_get_bind (next : Memo → Remembering (List ClassUse)) (memo : Memo) :
    (get >>= next).run.run memo = (next memo).run.run memo := rfl

section

variable (retention : Retention) (limit : Int) (levels depth : Nat) {text : Text} {memo : Memo}

/-- An answer that is remembered is written down again. -/
theorem run_rememberedUses_of_found {uses : List ClassUse}
    (found : memo.find? ⟨text.trim, depth, limit⟩ = some uses) :
    (rememberedUses retention limit (levels + 1) depth text).run.run memo =
      (.ok uses, memo.write retention ⟨text.trim, depth, limit⟩ uses) := by
  rw [rememberedUses, run_get_bind]
  dsimp only
  rw [found]
  rfl

/-- An answer that is not remembered is read and written down. -/
theorem run_rememberedUses_of_missing (missing : memo.find? ⟨text.trim, depth, limit⟩ = none) :
    (rememberedUses retention limit (levels + 1) depth text).run.run memo =
      (Shape.usesOf (rememberedUses retention limit levels (depth + 1)) text.trim >>= fun uses => do
        modify (Memo.write retention ⟨text.trim, depth, limit⟩ uses)
        pure uses).run.run memo := by
  rw [rememberedUses, run_get_bind]
  dsimp only
  rw [missing]

end

section

variable {retention : Retention} (forgets : retention.OnlyForgets)

include forgets

/-- At any depth, reading an expression with a memory corresponds to reading it without one. -/
theorem relates_rememberedUses (limit : Int) {levels depth : Nat}
    (left : levels = levelsLeft limit depth) (text : Text) :
    Simulation.remembering.Relates (rememberedUses retention limit levels depth text)
      (usesWithin levels text) := by
  induction levels generalizing depth text with
  | zero =>
    intro memo faithful
    exact ⟨rfl, faithful⟩
  | succ levels ih =>
    have below : levels = levelsLeft limit (depth + 1) := by
      simp only [levelsLeft] at left ⊢
      omega
    have inside : Simulation.remembering.Relates
        (Shape.usesOf (rememberedUses retention limit levels (depth + 1)) text.trim)
        (Shape.usesOf (usesWithin levels) text.trim) :=
      Simulation.remembering.relates_usesOf fun inner _ => ih below inner
    have trimmed : usesWithin (levels + 1) text.trim = usesWithin (levels + 1) text := by
      rw [usesWithin, usesWithin, Text.trim_trim]
    intro memo faithful
    cases found : memo.find? ⟨text.trim, depth, limit⟩ with
    | some uses =>
      have answered := faithful.find found
      rw [run_rememberedUses_of_found retention limit levels depth found]
      refine ⟨?_, faithful.write forgets answered⟩
      rw [← trimmed, left]
      exact answered.symm
    | none =>
      rw [run_rememberedUses_of_missing retention limit levels depth found, ExceptT.run_bind,
        StateT.run_bind]
      obtain ⟨same, kept⟩ := inside memo faithful
      generalize (Shape.usesOf (rememberedUses retention limit levels (depth + 1)) text.trim).run.run
        memo = read at same kept
      obtain ⟨result, others⟩ := read
      cases result with
      | error reason => exact ⟨same, kept⟩
      | ok uses =>
        refine ⟨same, kept.write forgets ?_⟩
        rw [← left, trimmed]
        exact same.symm

/-- One request has the result that it has without a memory, and leaves a faithful memory. -/
theorem parseRemembering_eq (form : ExpressionForm) (limit : Int) (text : Text) {memo : Memo}
    (faithful : memo.IsFaithful) :
    (parseRemembering retention form limit text memo).1 = parseForm form limit text ∧
      (parseRemembering retention form limit text memo).2.IsFaithful := by
  have related : Simulation.remembering.Relates
      (form.usesOf (rememberedUses retention limit (levelsLeft limit 0) 0)
        (rememberedUses retention limit (levelsLeft limit 1) 1) text)
      (form.usesOf (usesWithin (levelsLeft limit 0)) (usesWithin (levelsLeft limit 1)) text) := by
    apply Simulation.remembering.relates_form
    · intro inner _
      exact relates_rememberedUses forgets limit rfl inner
    · intro inner _
      exact relates_rememberedUses forgets limit rfl inner
  obtain ⟨same, kept⟩ := related memo faithful
  exact ⟨congrArg matchOf same, kept⟩

end

def memoAfter (retention : Retention) : List ParseCall → Memo → Memo
  | [], memo => memo
  | call :: calls, memo =>
    memoAfter retention calls (parseRemembering retention call.form call.limit call.text memo).2

/-- Whatever is forgotten in between, requests in turn have the results that each of them has alone
without a memory, and every entry that is left is the answer for its key. -/
theorem parseAll_transparent {retention : Retention} (forgets : retention.OnlyForgets) {memo : Memo}
    (faithful : memo.IsFaithful) (calls : List ParseCall) :
    parseAll retention calls memo =
        calls.map (fun call => parseForm call.form call.limit call.text) ∧
      (memoAfter retention calls memo).IsFaithful := by
  induction calls generalizing memo with
  | nil => exact ⟨rfl, faithful⟩
  | cons call calls ih =>
    obtain ⟨same, kept⟩ := parseRemembering_eq forgets call.form call.limit call.text faithful
    obtain ⟨others, left⟩ := ih kept
    refine ⟨?_, left⟩
    rw [List.map_cons, ← same, ← others]
    rfl

theorem parseAll_transparent_recent :
    let calls : List ParseCall :=
      [⟨.any, 200, "a && (b && 'c')".toList⟩, ⟨.any, 0, "a && (b && 'c')".toList⟩,
        ⟨.template, 200, "`p $\x7bb && 'c'\x7d`".toList⟩, ⟨.any, 200, "a && (b && 'c')".toList⟩]
    (Retention.recent 1).OnlyForgets ∧ Memo.IsFaithful {} ∧
      parseAll (Retention.recent 1) calls {} =
        [some [⟨"c".toList, some "a && b".toList⟩], none,
          some [⟨"p".toList, none⟩, ⟨"c".toList, some "b".toList⟩],
          some [⟨"c".toList, some "a && b".toList⟩]] ∧
      (memoAfter (Retention.recent 1) calls {}).IsFaithful := by
  intro calls
  have forgets := Retention.onlyForgets_recent 1
  obtain ⟨results, faithful⟩ := parseAll_transparent forgets Memo.isFaithful_empty calls
  refine ⟨forgets, Memo.isFaithful_empty, ?_, faithful⟩
  rw [results]
  decide +kernel

end ClassUsage
