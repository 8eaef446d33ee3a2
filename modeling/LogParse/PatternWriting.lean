import LogParse.PatternMeaning

/-!
# Writing a pattern down

Every list of tokens that a pattern can stand for is the meaning of a written
pattern.  A token is written by itself.  The only neighbours that could be
taken for something else are a year and what follows it, and they are not,
because the month of a timestamp is never written alone.
-/

namespace LogParse

/-- The notation of a token.  The month has none of its own: `%m` is the
message. -/
def Token.written (token : Token) : Text :=
  match token.kind with
  | .literal => escape token.literal
  | .timestamp => timestampPattern
  | .year => ['%', 'Y']
  | .month => []
  | .day => ['%', 'd']
  | .hour => ['%', 'H']
  | .minute => ['%', 'M']
  | .second => ['%', 'S']
  | .level => ['%', 'l']
  | .threadId => ['%', 't']
  | .processId => ['%', 'p']
  | .file => ['%', 'f']
  | .function => ['%', 'F']
  | .line => ['%', '#']
  | .loggerName => ['%', 'n']
  | .message => ['%', 'v']

def writePattern (tokens : List Token) : Text :=
  tokens.flatMap Token.written

@[simp] theorem writePattern_cons (token : Token) (tokens : List Token) :
    writePattern (token :: tokens) = token.written ++ writePattern tokens :=
  List.flatMap_cons

/-- The text cannot continue a timestamp behind its year. -/
structure Clear (text : Text) : Prop where
  month : ∀ rest, text ≠ '%' :: 'm' :: rest
  dash : ∀ rest, text ≠ '-' :: '%' :: 'm' :: rest

namespace Clear

variable {text rest : Text} {letter : Char}

theorem empty : Clear [] := ⟨by simp, by simp⟩

theorem specifier (notMonth : letter ≠ 'm') : Clear ('%' :: letter :: rest) :=
  ⟨by simp [notMonth], by simp⟩

theorem escape (clear : Clear rest) (text : Text) :
    Clear (escape text ++ rest) := by
  induction text with
  | nil => exact clear
  | cons ch text induction =>
      rw [escape_cons]
      by_cases percent : ch = '%'
      · subst ch
        exact specifier (by decide)
      · rw [if_neg percent]
        constructor
        · intro later same
          exact percent (List.cons.inj same).1
        · intro later same
          exact induction.month later (List.cons.inj same).2

/-- Nothing that is clear makes a timestamp of a year. -/
theorem unstamped (clear : Clear rest) :
    ¬ timestampPattern.isPrefixOf ('%' :: 'Y' :: rest) = true := by
  have spelled : timestampPattern =
      '%' :: 'Y' :: '-' :: '%' :: 'm' :: timestampPattern.drop 5 := by
    decide
  rw [spelled, List.isPrefixOf_iff_prefix]
  rintro ⟨later, same⟩
  simp only [List.cons_append, List.cons.injEq, true_and] at same
  exact clear.dash _ same.symm

end Clear

section Written

variable {platform : Platform} {record : LogRecord} {token : Token}
  {tokens : List Token} {rest : Text}

theorem Token.clear_written (notMonth : token.kind ≠ .month)
    (clear : Clear rest) : Clear (token.written ++ rest) := by
  unfold Token.written
  cases kind : token.kind with
  | literal => exact clear.escape token.literal
  | month => exact absurd kind notMonth
  | timestamp => exact .specifier (by decide)
  | _ => exact .specifier (by decide)

theorem clear_writePattern (noMonth : ∀ token ∈ tokens, token.kind ≠ .month) :
    Clear (writePattern tokens) := by
  induction tokens with
  | nil => exact .empty
  | cons token tokens induction =>
      obtain ⟨here, later⟩ := List.forall_mem_cons.mp noMonth
      rw [writePattern_cons]
      exact token.clear_written here (induction later)

theorem meaning_other_specifier {letter : Char} (other : letter ≠ 'Y') :
    meaning platform record ('%' :: letter :: rest) =
      specifierMeaning platform record letter ++
        meaning platform record rest := by
  apply meaning_specifier
  intro stamped
  obtain ⟨_, same⟩ := isPrefixOf_timestampPattern stamped
  exact other (List.cons.inj (List.cons.inj same).2).1

theorem meaning_timestampPattern (rest : Text) :
    meaning platform record (timestampPattern ++ rest) =
      renderTimestamp platform (platform.toTimeT record.timestamp) ++
        meaning platform record rest := by
  have spelled : timestampPattern = '%' :: timestampPattern.drop 1 := by
    decide
  have stamped : timestampPattern.isPrefixOf
      ('%' :: (timestampPattern.drop 1 ++ rest)) = true := by
    rw [← List.cons_append, ← spelled, List.isPrefixOf_iff_prefix]
    exact List.prefix_append _ _
  have behind : (timestampPattern.drop 1 ++ rest).drop
      (timestampPattern.length - 1) = rest :=
    List.drop_left' rfl
  conv_lhs => rw [spelled]
  rw [List.cons_append, meaning_timestamp stamped, behind]

/-- A written token means what it renders. -/
theorem Token.meaning_written (notMonth : token.kind ≠ .month)
    (clear : Clear rest) :
    meaning platform record (token.written ++ rest) =
      Formatter.renderToken platform token record ++
        meaning platform record rest := by
  unfold Token.written Formatter.renderToken renderField
  cases kind : token.kind with
  | literal => exact meaning_escape_append _ _
  | timestamp => exact meaning_timestampPattern rest
  | month => exact absurd kind notMonth
  | year => exact meaning_specifier clear.unstamped
  | _ => exact meaning_other_specifier (by decide)

theorem meaning_writePattern
    (noMonth : ∀ token ∈ tokens, token.kind ≠ .month) :
    meaning platform record (writePattern tokens) =
      tokens.flatMap fun token =>
        Formatter.renderToken platform token record := by
  induction tokens with
  | nil => simp [writePattern]
  | cons token tokens induction =>
      obtain ⟨here, later⟩ := List.forall_mem_cons.mp noMonth
      rw [writePattern_cons, token.meaning_written here
        (clear_writePattern later), induction later, List.flatMap_cons]

end Written

/-- A literal has a text and no other token has one. -/
structure Token.Compiled (token : Token) : Prop where
  notMonth : token.kind ≠ .month
  literal_iff : token.literal ≠ [] ↔ token.kind = .literal

namespace Compiling

/-- All tokens so far are as they should be. -/
def Sound (state : Compiling) : Prop :=
  ∀ token ∈ state.tokens, token.Compiled

variable {state : Compiling}

theorem Sound.pushToken (sound : state.Sound) {kind : TokenKind}
    {literal : Text} (compiled : Token.Compiled ⟨kind, literal⟩) :
    (state.pushToken kind literal).Sound := by
  intro token member
  rcases List.mem_append.mp member with before | here
  · exact sound token before
  · obtain rfl := List.mem_singleton.mp here
    exact compiled

theorem Sound.flushLiteral (sound : state.Sound) :
    state.flushLiteral.Sound := by
  unfold Compiling.flushLiteral
  split
  · exact sound
  · rename_i nonempty
    intro token member
    rcases List.mem_append.mp member with before | here
    · exact sound token before
    · obtain rfl := List.mem_singleton.mp here
      exact ⟨by simp, by simpa using nonempty⟩

theorem Sound.pushSpecifier (sound : state.Sound) (letter : Char) :
    (state.pushSpecifier letter).Sound := by
  unfold Compiling.pushSpecifier
  split
  all_goals first | exact sound | exact sound.pushToken ⟨by decide, by simp⟩

theorem Sound.scan (sound : state.Sound) (skip : Nat) (rest : Text) :
    (state.scan skip rest).Sound := by
  fun_induction Compiling.scan state skip rest with
  | case1 => exact sound
  | case2 state skip _ rest induction => exact induction sound
  | case3 state ch rest stamped induction =>
      exact induction (sound.flushLiteral.pushToken ⟨by decide, by simp⟩)
  | case4 state ch rest unstamped plain induction => exact induction sound
  | case5 state ch unstamped percent => exact sound
  | case6 state ch percent letter rest unstamped induction =>
      exact induction (sound.flushLiteral.pushSpecifier letter)

end Compiling

theorem compilePattern_compiled (pattern : Text) :
    ∀ token ∈ compilePattern pattern, token.Compiled := by
  have start : Compiling.Sound {} := by simp [Compiling.Sound]
  exact (start.scan 0 pattern).flushLiteral

/-- Every list of tokens without a month on its own is rendered by a written
pattern, and every pattern compiles to such a list; written down, it renders
every record as before. -/
theorem render_writePattern (platform : Platform) (record : LogRecord)
    {tokens : List Token}
    (noMonth : ∀ token ∈ tokens, token.kind ≠ .month) (pattern : Text) :
    (Formatter.make (writePattern tokens)).render platform record =
      (tokens.flatMap fun token =>
        Formatter.renderToken platform token record) ++ ['\n'] ∧
    (∀ token ∈ compilePattern pattern, token.Compiled) ∧
    (Formatter.make (writePattern (compilePattern pattern))).render platform
        record =
      (Formatter.make pattern).render platform record := by
  have compiled := compilePattern_compiled pattern
  refine ⟨?_, compiled, ?_⟩
  · rw [Formatter.render_make, meaning_writePattern noMonth]
  · rw [Formatter.render_make, meaning_writePattern
      fun token member => (compiled token member).notMonth]
    rfl

/-- A year before what looks like the rest of a timestamp. -/
theorem render_writePattern_year :
    let tokens : List Token := [⟨.year, []⟩, ⟨.literal, ['-']⟩,
      ⟨.message, []⟩, ⟨.literal, "-%d %H:%M:%S".toList⟩, ⟨.timestamp, []⟩]
    (∀ token ∈ tokens, token.kind ≠ .month) ∧
    (Formatter.make (writePattern tokens)).render Platform.epoch
        { message := ['x'] } =
      "1970-x-%d %H:%M:%S1970-01-01 00:00:00\n".toList := by
  intro tokens
  have noMonth : ∀ token ∈ tokens, token.kind ≠ .month := by decide
  refine ⟨noMonth, ?_⟩
  rw [(render_writePattern Platform.epoch { message := ['x'] } noMonth
    []).1]
  decide

end LogParse
