/-
This file shows which events a markup is read as, piece by piece, and what is compiled from them. A
numeral with too many digits in a tag ends the reading.
-/

import SvgComponent.Proofs.Markup.Building
import SvgComponent.Proofs.Markup.Reading

namespace SvgComponent.Markup

open Text

/-- A markup yields events if they are read first, before any rest of the given kind. -/
def Yields (follows : List Char → Prop) (markup : List Char) (events : List Event) : Prop :=
  ∀ length rest, follows rest → (markup ++ rest).length ≤ length →
    Token.events length (markup ++ rest) =
      (events ++ (Token.events length rest).1, (Token.events length rest).2)

/-- A tag or nothing follows a text. -/
def BeginsWithTag (rest : List Char) : Prop :=
  ∀ c, rest.head? = some c → c = '<'

namespace Yields

theorem nil (follows : List Char → Prop) : Yields follows [] [] :=
  fun _ _ _ _ => rfl

theorem append {follows followsSecond : List Char → Prop} {first second : List Char}
    {firstEvents secondEvents : List Event} (front : Yields follows first firstEvents)
    (back : Yields followsSecond second secondEvents)
    (begins : ∀ rest, followsSecond rest → follows (second ++ rest)) :
    Yields followsSecond (first ++ second) (firstEvents ++ secondEvents) := by
  intro length rest allowed enough
  rw [List.append_assoc] at enough ⊢
  have shorter := Nat.le_trans (List.suffix_append first _).length_le enough
  rw [front length _ (begins rest allowed) enough, back length rest allowed shorter,
    List.append_assoc]

/-- A token yields its event. -/
theorem token {follows : List Char → Prop} {markup : List Char} {event : Event}
    (present : markup ≠ [])
    (found : ∀ length rest, follows rest → markup.length ≤ length →
      Token.read length (markup ++ rest) = .ok (event, rest)) : Yields follows markup [event] := by
  intro length rest allowed enough
  have within := Nat.le_trans (List.prefix_append markup rest).length_le enough
  obtain ⟨c, characters, rfl⟩ := List.exists_cons_of_ne_nil present
  exact Token.events_cons (found length rest allowed within)

/-- An escaped text yields its event before a tag. -/
theorem text {content raw : List Char} (escaped : Escaped ['&', '<'] content raw)
    (visible : isBlankText content = false) : Yields BeginsWithTag raw [.text raw] := by
  have absent : '<' ∉ raw := escaped.notMem (by simp) (by simp)
  have present : raw ≠ [] := by
    rintro rfl
    rw [← escaped.isBlankText] at visible
    contradiction
  apply token present
  intro length rest stop _
  exact Token.read_text length present absent stop

/-- A written end tag yields its event. -/
theorem closing {tag : String} (named : IsTag tag) {spaces : List Char}
    (blank : isBlankText spaces = true) :
    Yields (fun _ => True) (['<', '/'] ++ tag.toList ++ spaces ++ ['>']) [.endTag tag] := by
  apply token (by simp)
  intro length rest _ _
  simpa using Token.read_closing length named blank rest

end Yields

/-- A markup fails behind events if they are read first and nothing can be read after them. -/
def Fails (follows : List Char → Prop) (markup : List Char) (events : List Event)
    (error : Error) : Prop :=
  ∀ length rest, follows rest → (markup ++ rest).length ≤ length →
    Token.events length (markup ++ rest) = (events, some error)

theorem Fails.append {follows followsSecond : List Char → Prop} {first second : List Char}
    {events : List Event} {error : Error} (front : Fails follows first events error)
    (begins : ∀ rest, followsSecond rest → follows (second ++ rest)) :
    Fails followsSecond (first ++ second) events error := by
  intro length rest allowed enough
  rw [List.append_assoc] at enough ⊢
  exact front length _ (begins rest allowed) enough

theorem Yields.fails {follows followsSecond : List Char → Prop} {first second : List Char}
    {firstEvents secondEvents : List Event} {error : Error}
    (front : Yields follows first firstEvents)
    (back : Fails followsSecond second secondEvents error)
    (begins : ∀ rest, followsSecond rest → follows (second ++ rest)) :
    Fails followsSecond (first ++ second) (firstEvents ++ secondEvents) error := by
  intro length rest allowed enough
  rw [List.append_assoc] at enough ⊢
  have shorter := Nat.le_trans (List.suffix_append first _).length_le enough
  rw [front length _ (begins rest allowed) enough, back length rest allowed shorter]

/-- A markup shows events if they are those kept among the events it yields. With an oversized
numeral in one of the values it fails behind some of them. -/
structure Shows (keep : Event → Bool) (follows : List Char → Prop) (markup : List Char)
    (values : List (List Char)) (shown : List Event) : Prop where
  yields : ¬ AnyOversized values →
    ∃ events, Yields follows markup events ∧ events.filter keep = shown
  fails : AnyOversized values →
    ∃ events, Fails follows markup events .oversizedNumeral ∧ events.filter keep <+: shown

namespace Shows

variable {keep : Event → Bool} {follows followsSecond : List Char → Prop}

theorem mono {markup : List Char} {values : List (List Char)} {shown : List Event}
    (shows : Shows keep follows markup values shown)
    (begins : ∀ rest, followsSecond rest → follows rest) :
    Shows keep followsSecond markup values shown where
  yields readable := by
    obtain ⟨events, yields, counted⟩ := shows.yields readable
    exact ⟨events, fun length rest allowed => yields length rest (begins rest allowed), counted⟩
  fails oversized := by
    obtain ⟨events, fails, counted⟩ := shows.fails oversized
    exact ⟨events, fun length rest allowed => fails length rest (begins rest allowed), counted⟩

theorem of_yields {markup : List Char} {events : List Event} (yields : Yields follows markup events)
    (kept : ∀ event ∈ events, keep event = true) : Shows keep follows markup [] events :=
  ⟨fun _ => ⟨events, yields, List.filter_eq_self.mpr kept⟩, not_anyOversized_nil.elim⟩

/-- The values may be listed in another way. -/
theorem congr {markup : List Char} {values others : List (List Char)} {shown : List Event}
    (shows : Shows keep follows markup values shown)
    (same : AnyOversized others ↔ AnyOversized values) :
    Shows keep follows markup others shown where
  yields readable := shows.yields (same.not.mp readable)
  fails oversized := shows.fails (same.mp oversized)

theorem append {first second : List Char} {firstValues secondValues : List (List Char)}
    {firstShown secondShown : List Event} (front : Shows keep follows first firstValues firstShown)
    (back : Shows keep followsSecond second secondValues secondShown)
    (begins : ∀ rest, followsSecond rest → follows (second ++ rest)) :
    Shows keep followsSecond (first ++ second) (firstValues ++ secondValues)
      (firstShown ++ secondShown) where
  yields := by
    intro readable
    rw [anyOversized_append, not_or] at readable
    obtain ⟨firstEvents, firstYields, rfl⟩ := front.yields readable.1
    obtain ⟨secondEvents, secondYields, rfl⟩ := back.yields readable.2
    exact ⟨_, firstYields.append secondYields begins, List.filter_append _ _⟩
  fails := by
    intro oversized
    by_cases early : AnyOversized firstValues
    · obtain ⟨events, fails, shown⟩ := front.fails early
      exact ⟨events, fails.append begins, shown.trans (List.prefix_append _ _)⟩
    · rw [anyOversized_append, or_iff_right early] at oversized
      obtain ⟨firstEvents, firstYields, rfl⟩ := front.yields early
      obtain ⟨secondEvents, secondFails, shown⟩ := back.fails oversized
      refine ⟨_, firstYields.fails secondFails begins, ?_⟩
      rw [List.filter_append]
      exact List.prefix_append_right_inj _ |>.mpr shown

/-- A token shows its event if it is kept. -/
theorem of_read {values : List (List Char)} {markup : List Char} {event : Event}
    (present : markup ≠ []) (read : Token.IsReadAs values markup event) :
    Shows keep (fun _ => True) markup values ([event].filter keep) := by
  constructor
  · intro readable
    exact ⟨[event], .token present fun length rest _ enough => (read length rest enough).1 readable,
      rfl⟩
  · intro oversized
    refine ⟨[], fun length rest _ enough => ?_, List.nil_prefix⟩
    have within := Nat.le_trans (List.prefix_append markup rest).length_le enough
    obtain ⟨c, characters, rfl⟩ := List.exists_cons_of_ne_nil present
    exact Token.events_error ((read length rest within).2 oversized)

/-- A written start tag shows its event, whatever follows it. -/
theorem start {tag : String} (named : IsTag tag) {attributes : List (String × String)}
    (valid : ∀ entry ∈ attributes, IsAttribute entry.1) {values : List (List Char)}
    {inner spaces : List Char} (written : WrittenAttributes attributes values inner)
    (blank : isBlankText spaces = true) (selfClosed : Bool)
    (kept : keep (.startTag tag attributes selfClosed) = true) :
    Shows keep (fun _ => True) (['<'] ++ tag.toList ++ inner ++ spaces ++ Tag.ending selfClosed)
      values [.startTag tag attributes selfClosed] := by
  have shows :=
    @of_read keep _ _ _ (by simp) (Token.read_start named valid written blank selfClosed)
  rwa [List.filter_cons_of_pos kept] at shows

end Shows

/-- Markup is compiled by a run over the events it is cut into. -/
theorem compile_events {preserve : Bool} {markup : String} {events : List Event}
    {error : Option Error}
    (read : Token.events markup.toList.length markup.toList = (events, error)) :
    compile preserve markup =
      (Build.run preserve Build.empty events).bind fun build =>
        match error with
        | some error => .error error
        | none => build.finish := by
  obtain ⟨rfl, rfl⟩ := Prod.mk.inj read
  rfl

/-- A markup that shows the events of an element is compiled to it, if events that are not kept
change nothing. -/
theorem compile_shows {keep : Event → Bool} {preserve : Bool}
    (same : ∀ build events,
      Build.run preserve build (events.filter keep) = Build.run preserve build events)
    {derivation : Derivation} (element : derivation.isElement = true) {markup : String}
    {values : List (List Char)}
    (shows : Shows keep BeginsWithTag markup.toList values derivation.events) :
    (¬ AnyOversized values →
      compile preserve markup = match derivation.element? preserve with
        | some root => .ok root
        | none => .error .oversizedNumeral) ∧
    (AnyOversized values → compile preserve markup = .error .oversizedNumeral) := by
  have whole : (markup.toList ++ []).length ≤ markup.toList.length := by simp
  have ended : BeginsWithTag [] := nofun
  have run := Build.run_root preserve element
  constructor
  · intro readable
    obtain ⟨events, yields, kept⟩ := shows.yields readable
    have read := yields markup.toList.length [] ended whole
    simp only [List.append_nil, Token.events_nil] at read
    rw [compile_events read, ← same, kept, run]
    cases derivation.element? preserve with
    | none => rfl
    | some root => rfl
  · intro oversized
    obtain ⟨events, fails, more, joined⟩ := shows.fails oversized
    have read := fails markup.toList.length [] ended whole
    rw [List.append_nil] at read
    rw [← joined, Build.run_append, same] at run
    rw [compile_events read]
    -- The run over the events before the failure ends well or at a numeral in a text.
    cases taken : Build.run preserve Build.empty events with
    | ok build => rfl
    | error error =>
        rw [taken] at run
        cases found : derivation.element? preserve with
        | none =>
            rw [found] at run
            exact congrArg Except.error (Except.error.inj run)
        | some root =>
            rw [found] at run
            contradiction

end SvgComponent.Markup
