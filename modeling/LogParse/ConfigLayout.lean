import LogParse.ConfigText
import Mathlib.Logic.Relation

/-!
# The layout of a configuration file

Layout edits change how a file is written: its blank lines and comments, its
whitespace, the letter case of its keys, its line ends, and the order of
neighbouring lines for different fields.  None of them, in any combination,
changes what `parse` returns.
-/

namespace LogParse

/-- Whitespace that stays on its line. -/
def Padding (text : Text) : Prop :=
  ∀ ch ∈ text, isSpace ch = true ∧ ch ≠ '\n'

/-- Changes within a line.  A line that ends in CR LF is padded with a CR. -/
inductive LineEdit : Text → Text → Prop where
  | around {lead tail : Text} (line : Text) :
      Padding lead → Padding tail →
      LineEdit line (lead ++ line ++ tail)
  | delimiter {key before after : Text} (value : Text) :
      '=' ∉ key → Padding before → Padding after →
      LineEdit (key ++ '=' :: value)
        (key ++ before ++ '=' :: (after ++ value))
  | recase {key recased : Text} (value : Text) :
      '=' ∉ key → lower recased = lower key →
      LineEdit (key ++ '=' :: value) (recased ++ '=' :: value)

/-- Lines without an assignment. -/
inductive Inert : Text → Prop where
  | blank {line : Text} : (∀ ch ∈ line, isSpace ch = true) → Inert line
  | comment {lead : Text} (rest : Text) :
      (∀ ch ∈ lead, isSpace ch = true) → Inert (lead ++ '#' :: rest)
  | noDelimiter {line : Text} : '=' ∉ line → Inert line

/-- The key of the line is one of the field. -/
def BelongsTo (line : Text) (field : Field) : Prop :=
  ∃ key value, line = key ++ '=' :: value ∧ '=' ∉ key ∧
    lower (trim key) ∈ field.keys

/-- A line starts after this text. -/
def LineStart (before : Text) : Prop := ∀ ch ∈ before.getLast?, ch = '\n'

/-- A line ends in front of this text. -/
def LineEnd (after : Text) : Prop := ∀ ch ∈ after.head?, ch = '\n'

inductive LayoutEdit : Text → Text → Prop where
  | insert {before line : Text} (after : Text) :
      LineStart before → '\n' ∉ line → Inert line →
      LayoutEdit (before ++ after) (before ++ (line ++ '\n' :: after))
  | within {before line edited after : Text} :
      LineStart before → LineEnd after → '\n' ∉ line →
      LineEdit line edited →
      LayoutEdit (before ++ (line ++ after)) (before ++ (edited ++ after))
  | final (text : Text) : LayoutEdit text (text ++ ['\n'])
  | exchange {before first second after : Text} {field other : Field} :
      LineStart before → LineEnd after → '\n' ∉ first → '\n' ∉ second →
      BelongsTo first field → BelongsTo second other → field ≠ other →
      LayoutEdit (before ++ (first ++ '\n' :: (second ++ after)))
        (before ++ (second ++ '\n' :: (first ++ after)))

section Lines

variable {before line after : Text} (config : Config)

theorem parseFrom_line (newlineFree : '\n' ∉ line) (rest : Text) :
    parseFrom config (line ++ '\n' :: rest) =
      parseFrom (parseLine config line) rest := by
  rw [parseFrom, lines_append_newline, lines_line newlineFree]
  rfl

theorem parseFrom_lineStart (started : LineStart before) (rest : Text) :
    parseFrom config (before ++ rest) =
      parseFrom (parseFrom config before) rest := by
  cases last : before.getLast? with
  | none =>
      obtain rfl := List.getLast?_eq_none_iff.mp last
      rfl
  | some ch =>
      obtain rfl := started ch last
      obtain ⟨previous, rfl⟩ := List.getLast?_eq_some_iff.mp last
      simp only [parseFrom]
      rw [List.append_assoc, List.singleton_append, lines_append_newline,
        List.foldl_append]

/-- The rest after a line and what ends it. -/
theorem parseFrom_lineEnd (newlineFree : '\n' ∉ line)
    (ended : LineEnd after) :
    parseFrom config (line ++ after) =
      parseFrom (parseLine config line) after.tail := by
  cases after with
  | nil =>
      rw [List.append_nil, ← parseFrom_append_final]
      exact parseFrom_line config newlineFree []
  | cons ch rest =>
      obtain rfl := ended ch rfl
      exact parseFrom_line config newlineFree rest

end Lines

theorem parseLine_eq_self {line : Text} (inert : assignment line = none)
    (config : Config) : parseLine config line = config := by
  apply Field.ext_get
  intro field
  rw [field.hasKeys.parseLine_eq, given, inert]
  rfl

theorem parseLine_congr {line edited : Text}
    (same : assignment edited = assignment line) (config : Config) :
    parseLine config edited = parseLine config line := by
  apply Field.ext_get
  intro field
  rw [field.hasKeys.parseLine_eq, field.hasKeys.parseLine_eq, given, same,
    given]

theorem assignment_congr {line edited : Text}
    (same : trim edited = trim line) :
    assignment edited = assignment line := by
  simp only [assignment, same]

theorem Inert.assignment_eq {line : Text} (inert : Inert line) :
    assignment line = none := by
  cases inert with
  | blank blank =>
      have stripped : trim line = [] := by
        rw [trim_eq_strip, strip_eq_nil blank]
      simp [assignment, stripped]
  | @comment lead rest blank =>
      have solid : ¬ isSpace '#' = true := by decide
      have stripped :
          trim (lead ++ '#' :: rest) = '#' :: rest.rdropWhile isSpace := by
        rw [trim_eq_strip, strip_append_cons solid,
          List.dropWhile_eq_nil_iff.mpr blank, List.nil_append]
      simp [assignment, stripped]
  | noDelimiter absent => exact assignment_of_not_mem absent

section LineEdit

variable {line edited : Text}

theorem LineEdit.assignment_eq (edit : LineEdit line edited) :
    assignment edited = assignment line := by
  cases edit with
  | around line lead tail =>
      apply assignment_congr
      rw [trim_eq_strip, trim_eq_strip,
        strip_append_right fun ch member => (tail ch member).1,
        strip_append_left fun ch member => (lead ch member).1]
  | @delimiter key before after value absent paddingBefore paddingAfter =>
      have absentPadded : '=' ∉ key ++ before := by
        intro member
        rcases List.mem_append.mp member with inKey | inPadding
        · exact absent inKey
        · exact absurd (paddingBefore _ inPadding).1 (by decide)
      have sameKey : trim (key ++ before) = trim key := by
        rw [trim_eq_strip, trim_eq_strip,
          strip_append_right fun ch member => (paddingBefore ch member).1]
      have sameValue : trim (after ++ value) = trim value := by
        rw [trim_eq_strip, trim_eq_strip,
          strip_append_left fun ch member => (paddingAfter ch member).1]
      rw [assignment_append absentPadded, assignment_append absent, sameKey,
        sameValue]
  | @recase key recased value absent same =>
      have absentRecased : '=' ∉ recased := by
        rwa [← mem_lower_mark (by decide), same, mem_lower_mark (by decide)]
      have sameKey : lower (trim recased) = lower (trim key) := by
        rw [lower_trim, same, lower_trim]
      rw [assignment_append absentRecased, assignment_append absent, sameKey]

theorem LineEdit.newlineFree (edit : LineEdit line edited)
    (newlineFree : '\n' ∉ line) : '\n' ∉ edited := by
  cases edit with
  | around line lead tail =>
      intro member
      rcases List.mem_append.mp member with member | inTail
      · rcases List.mem_append.mp member with inLead | inLine
        · exact (lead _ inLead).2 rfl
        · exact newlineFree inLine
      · exact (tail _ inTail).2 rfl
  | delimiter value _ before after =>
      have inBefore : '\n' ∉ _ := fun member => (before _ member).2 rfl
      have inAfter : '\n' ∉ _ := fun member => (after _ member).2 rfl
      simpa [inBefore, inAfter] using newlineFree
  | @recase key recased value _ same =>
      have inRecased : '\n' ∈ recased ↔ '\n' ∈ key := by
        rw [← mem_lower_mark (by decide), same, mem_lower_mark (by decide)]
      simpa [inRecased] using newlineFree

end LineEdit

theorem BelongsTo.given_eq_none {line : Text} {field other : Field}
    (belongs : BelongsTo line field) (different : other ≠ field) :
    given other.keys other.valid line = none := by
  obtain ⟨key, value, rfl, absent, named⟩ := belongs
  rw [given, assignment_append absent]
  split
  · rename_i assigned
    split at assigned
    · cases assigned
    · obtain ⟨rfl, rfl⟩ := Prod.mk.inj (Option.some.inj assigned)
      apply if_neg
      exact fun namedOther =>
        different (Field.eq_of_mem_keys namedOther named)
  · rfl

/-- Lines for different fields commute. -/
theorem parseLine_exchange {first second : Text} {field other : Field}
    (belongsFirst : BelongsTo first field)
    (belongsSecond : BelongsTo second other) (different : field ≠ other)
    (config : Config) :
    parseLine (parseLine config first) second =
      parseLine (parseLine config second) first := by
  apply Field.ext_get
  intro changed
  simp only [changed.hasKeys.parseLine_eq]
  by_cases same : changed = field
  · subst changed
    rw [belongsSecond.given_eq_none different]
    rfl
  · rw [belongsFirst.given_eq_none same]
    rfl

theorem LayoutEdit.parseFrom_eq {text edited : Text}
    (edit : LayoutEdit text edited) (config : Config) :
    parseFrom config edited = parseFrom config text := by
  cases edit with
  | insert after started newlineFree inert =>
      rw [parseFrom_lineStart config started, parseFrom_line _ newlineFree,
        parseLine_eq_self inert.assignment_eq,
        ← parseFrom_lineStart config started]
  | within started ended newlineFree edit =>
      rw [parseFrom_lineStart config started,
        parseFrom_lineEnd _ (edit.newlineFree newlineFree) ended,
        parseLine_congr edit.assignment_eq,
        ← parseFrom_lineEnd _ newlineFree ended,
        ← parseFrom_lineStart config started]
  | final text => exact parseFrom_append_final config text
  | exchange started ended firstFree secondFree first second different =>
      rw [parseFrom_lineStart config started, parseFrom_line _ secondFree,
        parseFrom_lineEnd _ firstFree ended,
        ← parseLine_exchange first second different,
        ← parseFrom_lineEnd _ secondFree ended,
        ← parseFrom_line _ firstFree,
        ← parseFrom_lineStart config started]

/-- Any edits, made or undone, in any order. -/
theorem parse_layout {text edited : Text}
    (edits : Relation.EqvGen LayoutEdit text edited) :
    parse edited = parse text := by
  induction edits with
  | rel text edited edit => exact edit.parseFrom_eq {}
  | refl text => rfl
  | symm text edited _ induction => exact induction.symm
  | trans text middle edited _ _ first second => exact second.trans first

/-- The two lines exchanged, a key in capitals, CR LF, a comment, and a final
newline. -/
theorem parse_layout_exchanged :
    parse "# log\nLEVEL=warn\r\nmode=sync\n".toList =
      parse "mode=sync\nlevel=warn".toList := by
  have exchanged : LayoutEdit "mode=sync\nlevel=warn".toList
      "level=warn\nmode=sync".toList :=
    @LayoutEdit.exchange [] "mode=sync".toList "level=warn".toList []
      .mode .level (by simp [LineStart]) (by simp [LineEnd]) (by decide)
      (by decide)
      ⟨"mode".toList, "sync".toList, by decide, by decide, by decide⟩
      ⟨"level".toList, "warn".toList, by decide, by decide, by decide⟩
      (by decide)
  have recased : LayoutEdit "level=warn\nmode=sync".toList
      "LEVEL=warn\nmode=sync".toList :=
    @LayoutEdit.within [] "level=warn".toList "LEVEL=warn".toList
      "\nmode=sync".toList (by simp [LineStart])
      (fun _ first => (Option.some.inj first).symm) (by decide)
      (@LineEdit.recase "level".toList "LEVEL".toList "warn".toList
        (by decide) (by decide))
  have crlf : LayoutEdit "LEVEL=warn\nmode=sync".toList
      "LEVEL=warn\r\nmode=sync".toList :=
    @LayoutEdit.within [] "LEVEL=warn".toList "LEVEL=warn\r".toList
      "\nmode=sync".toList (by simp [LineStart])
      (fun _ first => (Option.some.inj first).symm) (by decide)
      (@LineEdit.around [] "\r".toList "LEVEL=warn".toList
        (by simp [Padding]) (by simp [Padding, isSpace]))
  have commented : LayoutEdit "LEVEL=warn\r\nmode=sync".toList
      "# log\nLEVEL=warn\r\nmode=sync".toList :=
    @LayoutEdit.insert [] "# log".toList
      "LEVEL=warn\r\nmode=sync".toList (by simp [LineStart]) (by decide)
      (@Inert.comment [] " log".toList (by simp))
  apply parse_layout
  exact .trans _ _ _ (.rel _ _ exchanged)
    (.trans _ _ _ (.rel _ _ recased)
      (.trans _ _ _ (.rel _ _ crlf)
        (.trans _ _ _ (.rel _ _ commented) (.rel _ _ (.final _)))))

end LogParse
