import PhpHooks.Proofs.DocBlock.Nesting
import PhpHooks.Proofs.TypeExpr.Grammar

set_option autoImplicit false

/-!
The outline of derived token lists. Brackets stand in pairs, and a type neither ends in a mark that
asks for more nor begins with one that cannot stand in front.
-/
namespace PhpHooks

open ParamTag (closing? isInk)

/-- Token lists whose brackets stand in pairs. -/
inductive Paired : List Lexeme → Prop
  | nil : Paired []
  | word {token : Lexeme} {tokens : List Lexeme} : token.kind ≠ .mark → Paired tokens →
      Paired (token :: tokens)
  | mark {c : Char} {tokens : List Lexeme} : isInk c = true → Paired tokens →
      Paired (.ofMark c :: tokens)
  | group {opening closing : Char} {inner tokens : List Lexeme} :
      closing? opening = some closing → Paired inner → Paired tokens →
      Paired (.ofMark opening :: (inner ++ .ofMark closing :: tokens))

theorem Paired.append {front back : List Lexeme} (first : Paired front) (second : Paired back) :
    Paired (front ++ back) := by
  induction first with
  | nil => exact second
  | word kind _ ih => exact .word kind ih
  | mark ink _ ih => exact .mark ink ih
  | group pair inner _ _ ih =>
      rw [List.cons_append, List.append_assoc, List.cons_append]
      exact .group pair inner ih

namespace Lexeme

/-- The marks behind which a type goes on. -/
def asksForMore (token : Lexeme) : Bool :=
  token == .ofMark '|' || token == .ofMark ':' || token == .ofMark ','

def startsType (token : Lexeme) : Bool :=
  token.kind != .mark || token == .ofMark '?' || token == .ofMark '('

theorem asksForMore_of_kind {token : Lexeme} (kind : token.kind ≠ .mark) :
    token.asksForMore = false := by
  have other : ∀ c, token ≠ .ofMark c := by
    rintro c rfl
    exact kind rfl
  simp [asksForMore, other]

end Lexeme

/-- Token lists that may stand behind a part of a type. -/
structure TypeTail (tokens : List Lexeme) : Prop where
  paired : Paired tokens
  ends : ∀ token ∈ tokens.getLast?, token.asksForMore = false

/-- Token lists that may stand as a type. -/
structure TypeOutline (tokens : List Lexeme) : Prop extends TypeTail tokens where
  begins : ∃ token ∈ tokens.head?, token.startsType = true

namespace TypeTail

variable {front back tokens : List Lexeme}

theorem nil : TypeTail [] :=
  ⟨.nil, by simp⟩

theorem append (first : TypeTail front) (second : TypeTail back) : TypeTail (front ++ back) := by
  refine ⟨first.paired.append second.paired, ?_⟩
  intro token last
  rw [Option.mem_def, List.getLast?_append, Option.or_eq_some_iff] at last
  rcases last with last | ⟨-, last⟩
  · exact second.ends token last
  · exact first.ends token last

theorem word {token : Lexeme} (kind : token.kind ≠ .mark) : TypeTail [token] := by
  refine ⟨.word kind .nil, ?_⟩
  rintro last ⟨⟩
  exact Lexeme.asksForMore_of_kind kind

/-- Anything in brackets. -/
theorem group {opening closing : Char} (pair : closing? opening = some closing)
    (inner : Paired tokens) : TypeTail (.ofMark opening :: (tokens ++ [.ofMark closing])) := by
  have closes : (Lexeme.ofMark closing).asksForMore = false := by
    rcases ParamTag.closing?_cases pair with ⟨-, rfl⟩ | ⟨-, rfl⟩ | ⟨-, rfl⟩ | ⟨-, rfl⟩ <;> decide
  refine ⟨.group pair inner .nil, ?_⟩
  intro token last
  rw [← List.cons_append, List.getLast?_concat] at last
  cases last
  exact closes

theorem brackets (count : Nat) : TypeTail (TypeExpr.brackets count) := by
  induction count with
  | zero => exact nil
  | succ count ih =>
      have pair : TypeTail (.ofMark '[' :: ([] ++ [.ofMark ']'])) := group (by decide) .nil
      exact pair.append ih

end TypeTail

namespace TypeOutline

variable {front back tokens : List Lexeme}

theorem append (first : TypeOutline front) (second : TypeTail back) :
    TypeOutline (front ++ back) := by
  obtain ⟨token, begins, starts⟩ := first.begins
  rw [Option.mem_def] at begins
  exact ⟨first.toTypeTail.append second, token, by simp [begins], starts⟩

theorem word {token : Lexeme} (kind : token.kind ≠ .mark) : TypeOutline [token] :=
  ⟨.word kind, token, rfl, by simp [Lexeme.startsType, kind]⟩

/-- A type behind a mark. -/
theorem behind {c : Char} (ink : isInk c = true) (outline : TypeOutline tokens) :
    TypeTail (.ofMark c :: tokens) := by
  refine ⟨.mark ink outline.paired, ?_⟩
  obtain ⟨token, begins, -⟩ := outline.begins
  obtain ⟨rest, rfl⟩ := List.head?_eq_some_iff.mp begins
  rw [List.getLast?_cons_cons]
  exact outline.ends

end TypeOutline

namespace TypeExpr

/-- What the tokens of a phrase look like. Parameters and items bring the mark that closes them. -/
def Phrase.Outline : Phrase → List Lexeme → Prop
  | .union, tokens | .member, tokens | .primary _, tokens | .arguments, tokens =>
      TypeOutline tokens
  | .alternatives, tokens | .named _ _, tokens => TypeTail tokens
  | .parameters, tokens => ∃ inner, tokens = inner ++ [.ofMark ')'] ∧ Paired inner
  | .callable _, tokens =>
      ∃ inner behind, tokens = inner ++ .ofMark ')' :: behind ∧ Paired inner ∧ TypeTail behind
  | .items, tokens => ∃ inner, tokens = inner ++ [.ofMark '\x7d'] ∧ Paired inner

theorem paired_separator (optional : Bool) : Paired (separator optional) := by
  cases optional with
  | false => exact .mark (by decide) .nil
  | true => exact .mark (by decide) (.mark (by decide) .nil)

theorem kind_of_shapeKey {token : Lexeme} {key : Text} (accepted : shapeKey token = .ok key) :
    token.kind ≠ .mark := by
  intro mark
  simp [shapeKey, mark] at accepted

/-- An item of a shape without the mark behind it. -/
theorem paired_item {token : Lexeme} {key : Text} {tokens : List Lexeme} (optional : Bool)
    (accepted : shapeKey token = .ok key) (type : TypeOutline tokens) :
    Paired (token :: (separator optional ++ tokens)) :=
  .word (kind_of_shapeKey accepted) ((paired_separator optional).append type.paired)

/-- Every derived token list has the outline of its phrase. -/
theorem Derives.outline {greedy : Bool} {phrase : Phrase} {tokens : List Lexeme}
    {value : phrase.Value} (derived : Derives greedy phrase tokens value) :
    phrase.Outline tokens := by
  have named : ∀ name, TypeOutline [⟨.name, name⟩] := fun name => .word (by simp)
  -- A phrase that is read behind its opening bracket brings the closing one; the rule with both
  -- brackets is where they become a pair.
  induction derived with
  | union _ _ ihFirst ihOthers => exact ihFirst.append ihOthers
  | alternativesNone => exact TypeTail.nil
  | alternativesMore _ _ ihFirst ihOthers => exact (ihFirst.append ihOthers).behind (by decide)
  | member count _ _ ih => exact ih.append (.brackets count)
  | nullable _ ih => exact ⟨ih.behind (by decide), .ofMark '?', rfl, by decide⟩
  | group _ ih => exact ⟨.group (by decide) ih.paired, .ofMark '(', rfl, by decide⟩
  | string text => exact TypeOutline.word (by simp)
  | number _ => exact TypeOutline.word (by simp)
  | @name name _ _ _ _ ih => exact (named name).append ih
  | truth _ => exact TypeTail.nil
  | falsity _ => exact TypeTail.nil
  | shape _ _ ih =>
      obtain ⟨inner, rfl, paired⟩ := ih
      exact TypeTail.group (by decide) paired
  | callableName _ _ ih =>
      obtain ⟨inner, behind, rfl, paired, tail⟩ := ih
      have parameters : TypeTail (.ofMark '(' :: (inner ++ [.ofMark ')'])) :=
        .group (by decide) paired
      have whole := parameters.append tail
      rwa [List.cons_append, List.append_assoc, List.singleton_append] at whole
  | generic _ _ _ ih => exact TypeTail.group (by decide) ih.paired
  | plain _ _ => exact TypeTail.nil
  | argumentsOne _ ih => exact ih
  | argumentsMore _ _ ihFirst ihOthers => exact ihFirst.append (ihOthers.behind (by decide))
  | parametersNone => exact ⟨[], rfl, .nil⟩
  | @parametersSome tokens _ _ ih => exact ⟨tokens, rfl, ih.paired⟩
  | withoutResult _ ih =>
      obtain ⟨inner, rfl, paired⟩ := ih
      exact ⟨inner, [], rfl, paired, .nil⟩
  | @withResult _ result _ _ _ _ ihParameters ihResult =>
      obtain ⟨inner, rfl, paired⟩ := ihParameters
      have colon : TypeTail (.ofMark ':' :: result) := ihResult.behind (by decide)
      exact ⟨inner, _, by simp, paired, colon⟩
  | itemsNone => exact ⟨[], rfl, .nil⟩
  | itemsLast optional accepted _ ih =>
      exact ⟨_, by simp, paired_item optional accepted ih⟩
  | itemsMore optional accepted _ _ ihType ihOthers =>
      obtain ⟨inner, rfl, paired⟩ := ihOthers
      have comma : Paired (.ofMark ',' :: inner) := .mark (by decide) paired
      exact ⟨_, by simp, (paired_item optional accepted ihType).append comma⟩

end TypeExpr
end PhpHooks
