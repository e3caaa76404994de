/-
This file states how a text is cut into literals and other characters, and which texts pass the
check of a module.
-/

import SvgComponent.Proofs.Component.Literal
import SvgComponent.Proofs.Component.Nesting

namespace SvgComponent.Component.Check

/-- A body stays on its line. Its quote may stand in it behind a backslash, which takes any
character with it. -/
inductive IsBody (quote : Char) : List Char → Prop
  | nil : IsBody quote []
  | plain {c : Char} {rest : List Char} (other : c ≠ quote) (unescaped : c ≠ '\\')
      (unbroken : c ≠ '\n') (others : IsBody quote rest) : IsBody quote (c :: rest)
  | escaped {c : Char} {rest : List Char} (unbroken : c ≠ '\n') (others : IsBody quote rest) :
      IsBody quote ('\\' :: c :: rest)

/-- A piece of a text is a literal or a character outside all literals. -/
inductive Piece where
  | literal (quote : Char) (body : List Char)
  | plain (c : Char)

namespace Piece

def text : Piece → List Char
  | literal quote body => quote :: (body ++ [quote])
  | plain c => [c]

/-- A literal leaves an empty one. -/
def emptied : Piece → List Char
  | literal _ _ => ['\'', '\'']
  | plain c => [c]

/-- The text that pieces are cut from. -/
def textOf (pieces : List Piece) : List Char :=
  pieces.flatMap text

/-- What is left once all literals are empty. -/
def emptiedOf (pieces : List Piece) : List Char :=
  pieces.flatMap emptied

theorem textOf_append (front back : List Piece) :
    textOf (front ++ back) = textOf front ++ textOf back :=
  List.flatMap_append

theorem emptiedOf_append (front back : List Piece) :
    emptiedOf (front ++ back) = emptiedOf front ++ emptiedOf back :=
  List.flatMap_append

/-- Two characters leave two characters, since a literal leaves its quotes. -/
theorem two_le_length_emptiedOf {pieces : List Piece} (long : 2 ≤ (textOf pieces).length) :
    2 ≤ (emptiedOf pieces).length := by
  cases pieces with
  | nil => contradiction
  | cons piece pieces =>
      cases piece with
      | literal quote body => simp [emptiedOf, emptied]
      | plain c =>
          cases pieces with
          | nil => simp [textOf, text] at long
          | cons second pieces => cases second <;> simp [emptiedOf, emptied]

end Piece

/-- A literal stands at the front of a text. -/
def BeginsLiteral (text : List Char) : Prop :=
  ∃ quote body rest, isQuote quote = true ∧ IsBody quote body ∧
    text = quote :: (body ++ quote :: rest)

/-- A text is cut from left to right. A literal is cut off wherever one begins. -/
inductive Lexed : List Char → List Piece → Prop
  | nil : Lexed [] []
  | literal {quote : Char} {body rest : List Char} {pieces : List Piece}
      (opening : isQuote quote = true) (inside : IsBody quote body) (others : Lexed rest pieces) :
      Lexed (quote :: (body ++ quote :: rest)) (.literal quote body :: pieces)
  | plain {c : Char} {rest : List Char} {pieces : List Piece}
      (single : ¬ BeginsLiteral (c :: rest)) (others : Lexed rest pieces) :
      Lexed (c :: rest) (.plain c :: pieces)

theorem IsBody.isInside {quote : Char} (opening : isQuote quote = true) {body : List Char}
    (within : IsBody quote body) : IsInside quote body := by
  have apart : '\\' ≠ quote := by
    rintro rfl
    contradiction
  induction within with
  | nil => exact fun _ => rfl
  | plain other unescaped unbroken _ inductionHypothesis =>
      exact (IsInside.plain other unbroken unescaped).append inductionHypothesis
  | escaped unbroken _ inductionHypothesis =>
      exact (IsInside.escaped apart unbroken).append inductionHypothesis

/-- A literal is read to the end of its body. -/
theorem afterLiteral?_eq_some_iff {quote : Char} (opening : isQuote quote = true)
    {text after : List Char} :
    afterLiteral? quote text = some after ↔
      ∃ body, IsBody quote body ∧ text = body ++ quote :: after := by
  constructor
  · intro found
    fun_induction afterLiteral? quote text with
    | case1 => contradiction
    | case2 rest =>
        obtain rfl := Option.some.inj found
        exact ⟨[], .nil, rfl⟩
    | case3 => contradiction
    | case4 => contradiction
    | case5 => contradiction
    | case6 c rest unbroken _ _ inductionHypothesis =>
        obtain ⟨body, inside, rfl⟩ := inductionHypothesis found
        exact ⟨'\\' :: c :: body, .escaped unbroken inside, rfl⟩
    | case7 c rest other unbroken unescaped inductionHypothesis =>
        obtain ⟨body, inside, rfl⟩ := inductionHypothesis found
        exact ⟨c :: body, .plain other unescaped unbroken inside, rfl⟩
  · rintro ⟨body, inside, rfl⟩
    rw [inside.isInside opening, afterLiteral?.eq_def]
    simp

/-- A literal begins exactly at a quote from which one can be read. -/
theorem beginsLiteral_iff (c : Char) (rest : List Char) :
    BeginsLiteral (c :: rest) ↔
      isQuote c = true ∧ ∃ after, afterLiteral? c rest = some after := by
  constructor
  · rintro ⟨quote, body, after, opening, inside, whole⟩
    obtain ⟨rfl, rfl⟩ := List.cons.inj whole
    exact ⟨opening, after, (afterLiteral?_eq_some_iff opening).mpr ⟨body, inside, rfl⟩⟩
  · rintro ⟨opening, after, found⟩
    obtain ⟨body, inside, rfl⟩ := (afterLiteral?_eq_some_iff opening).mp found
    exact ⟨c, body, after, opening, inside, rfl⟩

/-- Every text can be cut. -/
theorem exists_lexed (text : List Char) : ∃ pieces, Lexed text pieces := by
  induction size : text.length using Nat.strongRecOn generalizing text with
  | ind size inductionHypothesis =>
      subst size
      cases text with
      | nil => exact ⟨[], .nil⟩
      | cons c rest =>
          by_cases begins : BeginsLiteral (c :: rest)
          · obtain ⟨quote, body, after, opening, inside, whole⟩ := begins
            have shorter : after.length < (c :: rest).length := by
              rw [whole]
              simp only [List.length_cons, List.length_append]
              omega
            obtain ⟨pieces, others⟩ := inductionHypothesis _ shorter after rfl
            rw [whole]
            exact ⟨_, .literal opening inside others⟩
          · obtain ⟨pieces, others⟩ := inductionHypothesis _ (Nat.lt_succ_self _) rest rfl
            exact ⟨_, .plain begins others⟩

namespace Lexed

/-- The pieces make up the text. -/
theorem textOf_eq {text : List Char} {pieces : List Piece} (lexed : Lexed text pieces) :
    Piece.textOf pieces = text := by
  induction lexed with
  | nil => rfl
  | literal _ _ _ inductionHypothesis =>
      simpa [Piece.textOf, Piece.text] using inductionHypothesis
  | plain _ _ inductionHypothesis => simpa [Piece.textOf, Piece.text] using inductionHypothesis

/-- A text is stripped to its emptied pieces. -/
theorem strip_eq {text : List Char} {pieces : List Piece} (lexed : Lexed text pieces) :
    strip text = Piece.emptiedOf pieces := by
  induction lexed with
  | nil => rfl
  | @literal quote body rest pieces opening inside others inductionHypothesis =>
      have found : afterLiteral? quote (body ++ quote :: rest) = some rest :=
        (afterLiteral?_eq_some_iff opening).mpr ⟨body, inside, rfl⟩
      rw [strip_literal opening found, inductionHypothesis]
      rfl
  | @plain c rest pieces single others inductionHypothesis =>
      have stays : strip (c :: rest) = c :: strip rest := by
        rw [beginsLiteral_iff, not_and, not_exists] at single
        rw [strip, List.length_cons, stripWithin]
        split
        · case _ after literal =>
            split at literal
            · case _ opening => exact absurd literal (single opening after)
            · contradiction
        · rfl
      rw [stays, inductionHypothesis]
      rfl

/-- A text is cut in one way only. -/
theorem unique {text : List Char} {first second : List Piece} (lexed : Lexed text first)
    (other : Lexed text second) : first = second := by
  induction lexed generalizing second with
  | nil =>
      cases other
      rfl
  | @literal quote body rest pieces opening inside others inductionHypothesis =>
      have found : afterLiteral? quote (body ++ quote :: rest) = some rest :=
        (afterLiteral?_eq_some_iff opening).mpr ⟨body, inside, rfl⟩
      generalize whole : quote :: (body ++ quote :: rest) = text at other
      cases other with
      | nil => contradiction
      | @literal quote' body' rest' pieces' opening' inside' others' =>
          obtain ⟨rfl, tail⟩ := List.cons.inj whole
          have again := (afterLiteral?_eq_some_iff opening').mpr ⟨body', inside', tail⟩
          obtain rfl := Option.some.inj (found.symm.trans again)
          obtain rfl := List.append_cancel_right tail
          rw [inductionHypothesis others']
      | plain single =>
          exact absurd ⟨quote, body, rest, opening, inside, whole.symm⟩ single
  | @plain c rest pieces single others inductionHypothesis =>
      cases other with
      | literal opening inside => exact absurd ⟨_, _, _, opening, inside, rfl⟩ single
      | plain _ others' => rw [inductionHypothesis others']

end Lexed

/-- The marker of a module stands anywhere in it, also in a literal. -/
def HasMarker (content : String) : Prop :=
  "functional: true".toList <:+: content.toList

/-- A module has a render function. -/
def HasRender (content : String) : Prop :=
  "render(".toList <:+: content.toList

theorem check_of_no_marker {content : String} (missing : ¬ HasMarker content) :
    check content = .error .missingMarker := by
  have absent : Text.occurs "functional: true".toList content.toList = false :=
    Bool.eq_false_iff.mpr ((Text.occurs_iff _ _).not.mpr missing)
  rw [check, absent]
  rfl

theorem check_of_no_render {content : String} (marker : HasMarker content)
    (missing : ¬ HasRender content) : check content = .error .missingRender := by
  have absent : Text.occurs "render(".toList content.toList = false :=
    Bool.eq_false_iff.mpr ((Text.occurs_iff _ _).not.mpr missing)
  rw [check, (Text.occurs_iff _ _).mpr marker, absent]
  rfl

/-- A module with both markers is judged by its brackets. -/
theorem check_of_markers {content : String} (marker : HasMarker content)
    (render : HasRender content) {pieces : List Piece} (lexed : Lexed content.toList pieces) :
    check content = (scan [] (Piece.emptiedOf pieces)).bind fun opened =>
      if opened = [] then .ok () else .error (.unclosed opened.length) := by
  rw [check, (Text.occurs_iff _ _).mpr marker, (Text.occurs_iff _ _).mpr render, lexed.strip_eq]
  cases scan [] (Piece.emptiedOf pieces) with
  | error fault => rfl
  | ok opened => cases opened <;> rfl

/-- The check accepts exactly the modules with both markers and nested brackets. -/
theorem check_eq_ok_iff {content : String} {pieces : List Piece}
    (lexed : Lexed content.toList pieces) :
    check content = .ok () ↔ HasMarker content ∧ HasRender content ∧
      IsNested (brackets (Piece.emptiedOf pieces)) := by
  by_cases marker : HasMarker content
  · by_cases render : HasRender content
    · rw [check_of_markers marker render lexed, ← scan_eq_nil_iff]
      cases scan [] (Piece.emptiedOf pieces) <;> simp [Except.bind, marker, render]
    · simp [check_of_no_render marker render, render]
  · simp [check_of_no_marker marker, marker]

/-- Every text is cut in exactly one way. It is accepted exactly if it has both markers and the
brackets outside its literals are nested. Otherwise the first missing marker is reported, or the
first bracket that cannot follow those before it, or how many closing brackets are missing. -/
theorem check_outcomes (content : String) :
    ∃ pieces, (∀ other, Lexed content.toList other ↔ other = pieces) ∧
      (check content = .ok () ↔ HasMarker content ∧ HasRender content ∧
        IsNested (brackets (Piece.emptiedOf pieces))) ∧
      (check content = .error .missingMarker ↔ ¬ HasMarker content) ∧
      (check content = .error .missingRender ↔ HasMarker content ∧ ¬ HasRender content) ∧
      (∀ bracket, check content = .error (.unbalanced bracket) ↔
        HasMarker content ∧ HasRender content ∧
          ∃ front back, brackets (Piece.emptiedOf pieces) = front ++ bracket :: back ∧
            IsViable front ∧ ¬ IsViable (front ++ [bracket])) ∧
      ∀ count, check content = .error (.unclosed count) ↔
        HasMarker content ∧ HasRender content ∧ count ≠ 0 ∧
          ∃ closing, closing.length = count ∧ (∀ c ∈ closing, ∃ opening, (opening, c) ∈ pairs) ∧
            IsNested (brackets (Piece.emptiedOf pieces) ++ closing) := by
  obtain ⟨pieces, lexed⟩ := exists_lexed content.toList
  refine ⟨pieces, fun other => ⟨fun same => same.unique lexed, ?_⟩, check_eq_ok_iff lexed, ?_⟩
  · rintro rfl
    exact lexed
  simp only [← scan_unbalanced_iff, ← scan_leaves_iff]
  by_cases marker : HasMarker content
  · by_cases render : HasRender content
    · simp only [check_of_markers marker render lexed, marker, render]
      cases scanned : scan [] (Piece.emptiedOf pieces) with
      | error fault =>
          obtain ⟨c, rfl⟩ := scan_error scanned
          simp [Except.bind]
      | ok opened => cases opened <;> simp [Except.bind, eq_comm]
    · simp [check_of_no_render marker render, marker, render]
  · simp [check_of_no_marker marker, marker]

end SvgComponent.Component.Check
