/-
This file shows that ignored markup between tags and texts does not change what is compiled.
-/

import SvgComponent.Proofs.Markup.Noise
import SvgComponent.Proofs.Markup.RoundTrip

namespace SvgComponent.Markup

open Text

-- A property of all members of a list is decided by the members, not by all characters.
attribute [local instance (high)] List.decidableBAll

/-- Ignored markup and blank text between two tags, or between a tag and a text. The flags say
whether characters stand directly before and after it. Blank text never stands next to others. -/
inductive Gap : (before after : Bool) → List (List Char) → List Char → Prop
  | nil {before after : Bool} (apart : before = false ∨ after = false) : Gap before after [] []
  | blank {after : Bool} {values : List (List Char)} {spaces rest : List Char}
      (present : spaces ≠ []) (blank : isBlankText spaces = true)
      (gap : Gap true after values rest) : Gap false after values (spaces ++ rest)
  | item {before after : Bool} {values others : List (List Char)} {markup rest : List Char}
      (ignored : Ignored values markup) (gap : Gap false after others rest) :
      Gap before after (values ++ others) (markup ++ rest)

/-- The markup of siblings, without and with a gap before each sibling and behind the last one. The
flag says whether a text stands directly before the siblings. The texts and the values of attributes
are listed as they are escaped, and so are the values of all dropped tags. -/
inductive Sprinkled : (before : Bool) → List Tree → (texts values dropped : List (List Char)) →
    (plain noisy : List Char) → Prop
  | nil {before : Bool} {dropped : List (List Char)} {gap : List Char}
      (ignored : Gap before false dropped gap) : Sprinkled before [] [] [] dropped [] gap
  | text {before : Bool} {content : String} {others : List Tree}
      {texts values dropped later : List (List Char)} {gap raw plain noisy : List Char}
      (ignored : Gap before true dropped gap) (escaped : Escaped ['&', '<'] content.toList raw)
      (sprinkled : Sprinkled true others texts values later plain noisy) :
      Sprinkled before (.text content :: others) (raw :: texts) values (dropped ++ later)
        (raw ++ plain) (gap ++ raw ++ noisy)
  | selfClosed {before : Bool} (tag : String) {attributes : List (String × String)}
      {others : List Tree} {texts values own dropped later : List (List Char)}
      {gap inner spaces plain noisy : List Char} (ignored : Gap before false dropped gap)
      (attributed : WrittenAttributes attributes own inner) (blank : isBlankText spaces = true)
      (sprinkled : Sprinkled false others texts values later plain noisy) :
      Sprinkled before (.element tag attributes [] :: others) texts (own ++ values)
        (dropped ++ later) (['<'] ++ tag.toList ++ inner ++ spaces ++ ['/', '>'] ++ plain)
        (gap ++ (['<'] ++ tag.toList ++ inner ++ spaces ++ ['/', '>']) ++ noisy)
  | pair {before : Bool} (tag : String) {attributes : List (String × String)}
      {children others : List Tree}
      {texts values own innerTexts innerValues dropped within later : List (List Char)}
      {gap inner spaces content noisyContent closing plain noisy : List Char}
      (ignored : Gap before false dropped gap) (attributed : WrittenAttributes attributes own inner)
      (blank : isBlankText spaces = true)
      (inside : Sprinkled false children innerTexts innerValues within content noisyContent)
      (blankClosing : isBlankText closing = true)
      (sprinkled : Sprinkled false others texts values later plain noisy) :
      Sprinkled before (.element tag attributes children :: others) (innerTexts ++ texts)
        (own ++ innerValues ++ values) (dropped ++ within ++ later)
        (['<'] ++ tag.toList ++ inner ++ spaces ++ ['>'] ++ content ++
          ['<', '/'] ++ tag.toList ++ closing ++ ['>'] ++ plain)
        (gap ++ (['<'] ++ tag.toList ++ inner ++ spaces ++ ['>']) ++ noisyContent ++
          (['<', '/'] ++ tag.toList ++ closing ++ ['>']) ++ noisy)

/-- The markup without gaps is a written markup of the siblings. -/
theorem Sprinkled.written {before : Bool} {trees : List Tree}
    {texts values dropped : List (List Char)} {plain noisy : List Char}
    (sprinkled : Sprinkled before trees texts values dropped plain noisy) :
    Written trees texts values plain := by
  induction sprinkled with
  | nil => exact .nil
  | text _ escaped _ inductionHypothesis => exact .text escaped inductionHypothesis
  | selfClosed tag _ attributed blank _ inductionHypothesis =>
      exact .selfClosed tag attributed blank inductionHypothesis
  | pair tag _ attributed blank _ blankClosing _ insideHypothesis inductionHypothesis =>
      exact .pair tag attributed blank insideHypothesis blankClosing inductionHypothesis

/-- The events that count are neither skipped nor blank. -/
def Event.counts (event : Event) : Bool :=
  !event.isIgnored

def visible (events : List Event) : List Event :=
  events.filter Event.counts

namespace Shows

/-- Ignored markup shows nothing. -/
theorem ignored {values : List (List Char)} {markup : List Char} (ignored : Ignored values markup) :
    Shows Event.counts (fun _ => True) markup values [] := by
  obtain ⟨event, hidden, read⟩ := Token.read_ignored ignored
  have present : markup ≠ [] := by
    rintro rfl
    exact absurd (head?_ignored ignored) (by simp)
  have shows := @of_read Event.counts _ _ _ present read
  rwa [List.filter_cons_of_neg (by simp [Event.counts, hidden]), List.filter_nil] at shows

/-- Blank text in front of a tag shows nothing. -/
theorem blank {spaces : List Char} (present : spaces ≠ []) (blank : isBlankText spaces = true) :
    Shows Event.counts BeginsWithTag spaces [] [] := by
  have absent : '<' ∉ spaces := fun inside =>
    absurd (List.all_eq_true.mp blank '<' inside) (by decide)
  have yields : Yields BeginsWithTag spaces [.text spaces] :=
    .token present fun length rest stop _ => Token.read_text length present absent stop
  refine ⟨fun _ => ⟨_, yields, ?_⟩, not_anyOversized_nil.elim⟩
  simp [Event.counts, Event.isIgnored, Event.isBlank, blank]

end Shows

/-- A tag or nothing follows characters, also across a gap. -/
theorem Gap.begins {after : Bool} {values : List (List Char)} {markup : List Char}
    (gap : Gap true after values markup) {rest : List Char}
    (stop : after = false → BeginsWithTag rest) : BeginsWithTag (markup ++ rest) := by
  cases gap with
  | nil apart => exact stop (apart.resolve_left (by simp))
  | item ignored gap =>
      intro c first
      rw [List.append_assoc, List.head?_append, head?_ignored ignored] at first
      exact (Option.some.inj first).symm

/-- A gap shows nothing. -/
theorem Gap.shows {before after : Bool} {values : List (List Char)} {markup : List Char}
    (gap : Gap before after values markup) :
    Shows Event.counts (fun rest => after = false → BeginsWithTag rest) markup values [] := by
  induction gap with
  | nil apart => exact .of_yields (.nil _) (by simp)
  | blank present blank gap inductionHypothesis =>
      exact (Shows.blank present blank).append inductionHypothesis fun rest stop => gap.begins stop
  | item ignored gap inductionHypothesis =>
      exact (Shows.ignored ignored).append inductionHypothesis fun _ _ => trivial

/-- A tag or nothing follows a text, also across a gap. -/
theorem Sprinkled.begins {trees : List Tree} {texts values dropped : List (List Char)}
    {plain noisy : List Char} (sprinkled : Sprinkled true trees texts values dropped plain noisy)
    {rest : List Char} (stop : BeginsWithTag rest) : BeginsWithTag (noisy ++ rest) := by
  cases sprinkled with
  | nil gap => exact gap.begins fun _ => stop
  | text gap =>
      simp only [List.append_assoc]
      exact gap.begins fun impossible => Bool.noConfusion impossible
  | selfClosed tag gap | pair tag gap =>
      simp only [List.append_assoc]
      exact gap.begins fun _ c first => (Option.some.inj first).symm

/-- Siblings with gaps show the events of derivations that build the siblings. -/
theorem shows_sprinkled {before : Bool} {trees : List Tree}
    {texts values dropped : List (List Char)} {plain noisy : List Char}
    (sprinkled : Sprinkled before trees texts values dropped plain noisy)
    (writable : AreWritable trees) :
    ∃ content, Derivation.BuildAll content texts trees ∧
      Shows Event.counts BeginsWithTag noisy (values ++ dropped) (Derivation.eventsOf content) := by
  induction sprinkled with
  | nil gap => exact ⟨[], .nil, gap.shows.mono fun rest stop _ => stop⟩
  | @text before content others texts values dropped later gap raw plain noisy ignored escaped
      sprinkled inductionHypothesis =>
      cases writable with
      | text visible apart writable =>
          obtain ⟨content, built, inner⟩ := inductionHypothesis writable
          refine ⟨_, .cons (Derivation.builds_text escaped visible) built, ?_⟩
          have text := @Shows.of_yields Event.counts _ _ _ (Yields.text escaped visible) (by
            simp [Event.counts, Event.isIgnored, Event.isBlank, escaped.isBlankText, visible])
          have front := ignored.shows.append text fun _ _ impossible => Bool.noConfusion impossible
          have whole := front.append inner fun rest stop => sprinkled.begins stop
          exact whole.congr (by
            simp only [anyOversized_append, not_anyOversized_nil, or_false]
            exact or_left_comm)
  | selfClosed tag ignored attributed blank _ inductionHypothesis =>
      cases writable with
      | element named valid _ writable =>
          obtain ⟨content, built, inner⟩ := inductionHypothesis writable
          refine ⟨_, .cons (Derivation.builds_selfClosed tag _) built, ?_⟩
          have start := @Shows.start Event.counts _ named _ valid _ _ _ attributed blank true rfl
          have front := ignored.shows.append start fun _ _ _ c first =>
            (Option.some.inj first).symm
          have whole := front.append inner fun _ _ => trivial
          exact whole.congr (by
            simp only [anyOversized_append, or_comm, or_left_comm, or_assoc])
  | @pair before tag attributes children others texts values own innerTexts innerValues dropped
      within later _ _ _ _ _ _ _ _ ignored attributed blank inside blankClosing _ insideHypothesis
      inductionHypothesis =>
      cases writable with
      | element named valid insideWritable writable =>
          obtain ⟨nested, builtNested, nestedShows⟩ := insideHypothesis insideWritable
          obtain ⟨content, built, inner⟩ := inductionHypothesis writable
          refine ⟨_, .cons (Derivation.builds_pair tag _ builtNested insideWritable) built, ?_⟩
          have start := @Shows.start Event.counts _ named _ valid _ _ _ attributed blank false rfl
          have closing := @Shows.of_yields Event.counts _ _ _ (Yields.closing named blankClosing)
            (by simp [Event.counts, Event.isIgnored, Event.isBlank])
          have front := (ignored.shows.append start fun _ _ _ c first =>
            (Option.some.inj first).symm).append nestedShows fun _ _ => trivial
          have whole := (front.append closing fun _ _ c first =>
            (Option.some.inj first).symm).append inner fun _ _ => trivial
          have same :
              AnyOversized (own ++ innerValues ++ values ++ (dropped ++ within ++ later)) ↔
                AnyOversized
                  (dropped ++ own ++ (innerValues ++ within) ++ [] ++ (values ++ later)) := by
            simp only [anyOversized_append, not_anyOversized_nil, false_or, or_comm, or_left_comm,
              or_assoc]
          simpa [Derivation.eventsOf, Derivation.events, Tag.ending] using whole.congr same

namespace Build

/-- Without preserved blanks, an ignored event changes nothing. -/
theorem step_ignored (build : Build) {event : Event} (hidden : event.isIgnored = true) :
    step false build event = .ok build := by
  have kept (children : List Node) : addBlank false children = children := by
    cases children <;> rfl
  have texts {raw : List Char} (blank : isBlankText raw = true)
      (decode? : List Char → Option (List Char)) : addText false build raw decode? = .ok build := by
    obtain ⟨frames, root⟩ := build
    cases frames with
    | nil => simp [addText, blank]
    | cons frame outer => simp [addText, blank, kept]
  cases event with
  | skipped => rfl
  | text raw =>
      exact texts (by simpa [Event.isIgnored, Event.isBlank] using hidden)
        CharacterReference.decode?
  | verbatim content => exact texts (by simpa [Event.isIgnored, Event.isBlank] using hidden) some
  | startTag tag attributes selfClosed => contradiction
  | endTag tag => contradiction

/-- Without preserved blanks, a run is a run over the events that count. -/
theorem run_visible (build : Build) (events : List Event) :
    run false build (visible events) = run false build events := by
  induction events generalizing build with
  | nil => rfl
  | cons event events inductionHypothesis =>
      by_cases hidden : event.isIgnored = true
      · rw [visible, List.filter_cons_of_neg (by simp [Event.counts, hidden]), run_cons,
          step_ignored build hidden]
        exact inductionHypothesis build
      · rw [visible, List.filter_cons_of_pos (by simpa [Event.counts] using hidden), run_cons,
          run_cons]
        cases step false build event with
        | error error => rfl
        | ok next => exact inductionHypothesis next

end Build

/-- Ignored markup between the tags and texts of a writable element does not change what is
compiled, unless a value in one of the dropped tags has an oversized numeral. Then the numeral is
reported. Without ignored markup, the element is compiled unless a numeral of its own is oversized.
-/
theorem compile_sprinkled {tag : String} {attributes : List (String × String)}
    {children : List Tree} (writable : AreWritable [.element tag attributes children])
    {texts values dropped : List (List Char)} {plain noisy : String}
    (sprinkled : Sprinkled false [.element tag attributes children] texts values dropped
      plain.toList noisy.toList) :
    (¬ AnyOversized (texts ++ values) →
      compile false plain = .ok ⟨Head.ofAttributes tag attributes, Tree.nodes children⟩) ∧
    (AnyOversized (texts ++ values) → compile false plain = .error .oversizedNumeral) ∧
    (¬ AnyOversized dropped → compile false noisy = compile false plain) ∧
    (AnyOversized dropped → compile false noisy = .error .oversizedNumeral) := by
  obtain ⟨compiled, failed⟩ := compile_written writable sprinkled.written false
  obtain ⟨content, built, shows⟩ := shows_sprinkled sprinkled writable
  obtain ⟨derivation, rfl, element, found, undecodable⟩ := Derivation.builds_root built false
  simp only [Derivation.eventsOf, List.append_nil] at shows
  obtain ⟨readable, oversized⟩ := compile_shows Build.run_visible element shows
  rw [anyOversized_append] at compiled failed readable oversized
  refine ⟨by rwa [anyOversized_append], by rwa [anyOversized_append], fun none => ?_,
    fun some => oversized (.inr some)⟩
  by_cases own : AnyOversized values
  · rw [oversized (.inl own), failed (.inr own)]
  · rw [readable (by simp [own, none])]
    by_cases spoiled : AnyOversized texts
    · rw [failed (.inl spoiled), undecodable spoiled]
    · rw [compiled (by simp [own, spoiled]), found spoiled]

/-- Comments, sections and scripts may hold marks and references, and stand next to each other. -/
theorem compile_sprinkled_svg :
    compile false "<!doctype a>\n<svg> <![CDATA[ ]]>t<!--<--><script a='&'>b > c</script ></svg>" =
      .ok ⟨Head.ofAttributes "svg" [], [.text "t"]⟩ := by
  have image : IsTag "svg" := ⟨⟨'s', ['v', 'g'], rfl, by decide, by decide⟩, by decide⟩
  have writable : AreWritable [.element "svg" [] [.text "t"]] :=
    .element image (by simp) (.text (by decide) (by simp) .nil) .nil
  have nothing : isBlankText [] = true := rfl
  have space : isBlankText [' '] = true := by decide
  have line : isBlankText ['\n'] = true := by decide
  have named : IsAttribute "a" := ⟨by decide, by decide⟩
  have spelled : "doctype".toList.map Char.toUpper = "DOCTYPE".toList := by decide
  have opened : '>' ∉ " a".toList := by decide
  have unclosed : ¬ ['-', '-', '>'] <:+: ['<'] := by decide
  have lacking : LacksEndTag "script".toList "b > c".toList := by
    intro spaces _ inside
    have bracket := inside.mem (show '<' ∈ _ by simp)
    contradiction
  have apart : ∀ c, " a='&'".toList.head? = some c → isBlank c = true := by
    rintro c ⟨⟩
    decide
  have script : DroppedTag "script".toList ["&".toList] "<script a='&'".toList :=
    .intro (by decide)
      (.cons named space nothing nothing (.inr rfl) (by decide) .nil) apart nothing
  have before : Gap false false [] "<!doctype a>\n".toList :=
    .item (.doctype spelled opened)
      (.blank (List.cons_ne_nil '\n' []) line (.nil (.inr rfl)))
  have front : Gap false true [] " <![CDATA[ ]]>".toList :=
    .blank (List.cons_ne_nil ' ' []) space (.item (.verbatim space) (.nil (.inl rfl)))
  have back : Gap true false ["&".toList] "<!--<--><script a='&'>b > c</script >".toList :=
    .item (.comment unclosed) (.item (.pair script lacking space) (.nil (.inl rfl)))
  have text : Escaped ['&', '<'] "t".toList "t".toList := .plain (by decide) .nil
  have sprinkled : Sprinkled false [.element "svg" [] [.text "t"]] ["t".toList] [] ["&".toList]
      "<svg>t</svg>".toList
      "<!doctype a>\n<svg> <![CDATA[ ]]>t<!--<--><script a='&'>b > c</script ></svg>".toList :=
    .pair "svg" before .nil nothing (.text front text (.nil back)) nothing
      (.nil (.nil (.inl rfl)))
  have plain : ¬ AnyOversized (["t".toList] ++ []) := by
    simp only [List.append_nil, anyOversized_cons, not_or]
    exact ⟨by decide, not_anyOversized_nil⟩
  have readable : ¬ AnyOversized ["&".toList] := by
    simp only [anyOversized_cons, not_or]
    exact ⟨by decide, not_anyOversized_nil⟩
  obtain ⟨compiled, -, same, -⟩ := compile_sprinkled writable sprinkled
  rw [same readable, compiled plain]
  rfl

end SvgComponent.Markup
