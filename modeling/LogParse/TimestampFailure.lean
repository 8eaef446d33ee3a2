import LogParse.Formatter
import LogParse.Library.Machine

/-!
# The timestamp cache after a rendering that throws

`append_timestamp` marks its cache valid before it renders.  A rendering that
throws leaves a part of the timestamp there, and a call for the same second
right after it appends that part as if it were whole.
-/

namespace LogParse

/-- A call of `append_timestamp`; with `throws`, its rendering, if it renders,
ends in an exception after so many characters. -/
structure TimestampCall where
  buffer : Text := []
  record : LogRecord
  throws : Option Nat := none
  deriving DecidableEq, Repr

/-- The calls on one thread, whichever formatters make them. -/
def timestampMachine (platform : Platform) :
    Machine TimestampCache TimestampCall where
  start := {}
  step cache call :=
    some (appendTimestamp platform call.throws cache call.buffer
      call.record).2

section Calls

variable (platform : Platform)

def TimestampCall.seconds (call : TimestampCall) : Int :=
  platform.toTimeT call.record.timestamp

/-- A call that returns appends the whole rendering of its second. -/
def AppendsWhole
    (transition : Machine.Transition TimestampCache TimestampCall) : Prop :=
  let call := transition.label
  ∀ buffer ∈ (appendTimestamp platform call.throws transition.before
      call.buffer call.record).1,
    buffer = call.buffer ++
      renderTimestamp platform (call.seconds platform)

instance (transition : Machine.Transition TimestampCache TimestampCall) :
    Decidable (AppendsWhole platform transition) :=
  inferInstanceAs (Decidable (∀ _ ∈ _, _))

/-- After these calls the call has to render: it is the first one, or the one
before it was for another second. -/
def TimestampCall.Renders (earlier : List TimestampCall)
    (call : TimestampCall) : Prop :=
  ∀ previous ∈ earlier.getLast?,
    previous.seconds platform ≠ call.seconds platform

/-- The rendering throws before it has come to the end. -/
def TimestampCall.CutShort (call : TimestampCall) : Prop :=
  ∃ length ∈ call.throws,
    length < (renderTimestamp platform (call.seconds platform)).length

/-- A rendering is cut short, and the next call is for the same second. -/
def RepeatsCutShort (calls : List TimestampCall) : Prop :=
  ∃ earlier cut next later, calls = earlier ++ cut :: next :: later ∧
    cut.Renders platform earlier ∧ cut.CutShort platform ∧
    next.seconds platform = cut.seconds platform

/-- What the cache remembers of the calls so far: the second of the last one,
and its whole rendering unless that has been cut short. -/
structure Remembers (taken : List TimestampCall) (cache : TimestampCache) :
    Prop where
  empty : taken = [] → cache.cacheValid = false
  second : ∀ last ∈ taken.getLast?, cache.cacheValid = true ∧
    cache.cachedSeconds = last.seconds platform
  whole : ¬ RepeatsCutShort platform taken →
    (∀ earlier last, taken = earlier ++ [last] →
      last.Renders platform earlier → ¬ last.CutShort platform) →
    cache.Sound platform

variable {platform} {taken : List TimestampCall} {call : TimestampCall}
  {cache : TimestampCache}

theorem RepeatsCutShort.append (repeats : RepeatsCutShort platform taken)
    (more : List TimestampCall) :
    RepeatsCutShort platform (taken ++ more) := by
  obtain ⟨earlier, cut, next, later, rfl, cutShort⟩ := repeats
  exact ⟨earlier, cut, next, later ++ more, by simp, cutShort⟩

theorem Remembers.hits_iff (remembers : Remembers platform taken cache) :
    cache.Hits platform call.record ↔ ¬ call.Renders platform taken := by
  cases last : taken.getLast? with
  | none =>
      have invalid := remembers.empty (List.getLast?_eq_none_iff.mp last)
      simp [TimestampCache.Hits, TimestampCall.Renders, invalid, last]
  | some previous =>
      obtain ⟨valid, second⟩ := remembers.second previous last
      simp [TimestampCache.Hits, TimestampCall.Renders, valid, second, last,
        TimestampCall.seconds]

/-- What a call finds in the cache is whole. -/
theorem Remembers.sound_of_hits (remembers : Remembers platform taken cache)
    {later : List TimestampCall}
    (never : ¬ RepeatsCutShort platform (taken ++ call :: later))
    (hits : cache.Hits platform call.record) : cache.Sound platform := by
  apply remembers.whole
  · exact fun repeats => never (repeats.append _)
  · rintro earlier last rfl renders cutShort
    obtain ⟨_, second⟩ :=
      remembers.second last List.getLast?_concat
    refine never ⟨earlier, last, call, later, by simp, renders, cutShort, ?_⟩
    exact hits.2.symm.trans second

/-- After any call the cache claims to hold its second. -/
theorem appendTimestamp_hits (throws : Option Nat) (cache : TimestampCache)
    (buffer : Text) (record : LogRecord) :
    (appendTimestamp platform throws cache buffer record).2.Hits platform
      record := by
  by_cases hits : cache.Hits platform record
  · rw [appendTimestamp_hit hits]
    exact hits
  · rw [appendTimestamp_miss hits]
    cases throws <;> exact ⟨rfl, rfl⟩

theorem Remembers.step (remembers : Remembers platform taken cache)
    {after : TimestampCache}
    (stepped : (timestampMachine platform).step cache call = some after) :
    Remembers platform (taken ++ [call]) after := by
  simp only [timestampMachine, Option.some.injEq] at stepped
  subst after
  constructor
  · simp
  · intro last isLast
    obtain rfl : call = last := by simpa using isLast
    exact appendTimestamp_hits _ _ _ _
  · intro never uncut
    by_cases hits : cache.Hits platform call.record
    · rw [appendTimestamp_hit hits]
      exact remembers.sound_of_hits never hits
    · rw [appendTimestamp_miss hits]
      cases throws : call.throws with
      | none => exact fun _ => rfl
      | some length =>
          have renders : call.Renders platform taken :=
            not_not.mp (mt remembers.hits_iff.mpr hits)
          have reaches : ¬ length < (renderTimestamp platform
              (call.seconds platform)).length :=
            fun short => uncut taken call rfl renders ⟨length, throws, short⟩
          exact fun _ => List.take_of_length_le (Nat.le_of_not_lt reaches)

theorem Remembers.run
    (run : (timestampMachine platform).Run Machine.Free {} taken cache) :
    Remembers platform taken cache := by
  apply run.invariant_labels
  · intro taken before call after stepped _ remembers
    exact remembers.step stepped
  · exact ⟨fun _ => rfl, by simp, fun _ _ => .empty⟩

theorem appendToken_run {record : LogRecord} {throws : Option Nat}
    {buffer : Text} {token : Token} {result : Option Text}
    {after : TimestampCache}
    (appended : appendToken platform throws cache buffer token record =
      (result, after)) :
    ∃ calls,
      (timestampMachine platform).Run Machine.Free cache calls after := by
  cases kind : token.kind with
  | timestamp =>
      simp only [appendToken, kind] at appended
      refine ⟨[⟨buffer, record, throws⟩], .single trivial ?_⟩
      simp only [timestampMachine, appended]
  | _ =>
      refine ⟨[], ?_⟩
      cases throws <;> simp only [appendToken, kind, Prod.mk.injEq] at appended
      all_goals
        obtain ⟨_, rfl⟩ := appended
        exact .nil

/-- What `format` does to the cache, calls of `append_timestamp` do. -/
theorem appendTokens_run (record : LogRecord) (throws : Option (Nat × Nat))
    (buffer : Text) (tokens : List Token) :
    ∃ calls, (timestampMachine platform).Run Machine.Free cache calls
      (appendTokens platform record throws cache buffer tokens).2 := by
  induction tokens generalizing throws cache buffer with
  | nil => exact ⟨[], .nil⟩
  | cons token tokens induction =>
      rw [appendTokens]
      dsimp only
      split
      · rename_i next buffer appended
        obtain ⟨calls, run⟩ := appendToken_run appended
        obtain ⟨later, continued⟩ := induction _ _
        exact ⟨calls ++ later, run.append continued⟩
      · rename_i next appended
        exact appendToken_run appended

end Calls

theorem exists_timestampRun (platform : Platform)
    (calls : List TimestampCall) :
    ∃ cache, (timestampMachine platform).Run Machine.Free {} calls cache :=
  Machine.exists_run_of_total (fun _ _ => ⟨_, rfl⟩) _ calls

/-- Whatever throws, all calls that return append whole timestamps exactly if
no call for the same second comes right after a rendering cut short. -/
theorem timestamps_whole_iff (platform : Platform)
    (calls : List TimestampCall) :
    (∀ transition ∈ (timestampMachine platform).transitions {} calls,
      AppendsWhole platform transition) ↔
    ¬ RepeatsCutShort platform calls := by
  constructor
  · rintro whole ⟨earlier, cut, next, later, rfl, renders,
      ⟨length, isLength, short⟩, same⟩
    have throws : cut.throws = some length := isLength
    obtain ⟨middle, run⟩ := exists_timestampRun platform earlier
    have misses : ¬ middle.Hits platform cut.record :=
      fun hits => (Remembers.run run).hits_iff.mp hits renders
    let left : TimestampCache :=
      ⟨cut.seconds platform, true,
        (renderTimestamp platform (cut.seconds platform)).take length⟩
    have stepped : (timestampMachine platform).step middle cut =
        some left := by
      simp only [timestampMachine, appendTimestamp_miss misses, throws]
      rfl
    have hits : left.Hits platform next.record := ⟨rfl, same.symm⟩
    have repeated : (timestampMachine platform).step left next =
        some left := by
      simp only [timestampMachine, appendTimestamp_hit hits]
    have member := (run.snoc trivial stepped).mem_transitions repeated later
    rw [List.append_assoc, List.singleton_append] at member
    have appended := whole _ member
    simp only [AppendsWhole, appendTimestamp_hit hits, Option.mem_def,
      Option.some.injEq, forall_eq', List.append_cancel_left_eq, left, same]
      at appended
    have lengths := congrArg List.length appended
    rw [List.length_take] at lengths
    omega
  · intro never transition member
    obtain ⟨_, run⟩ := exists_timestampRun platform calls
    obtain ⟨taken, later, rfl, reached⟩ :=
      run.exists_of_mem_transitions member
    have remembers := Remembers.run reached
    intro buffer appended
    by_cases hits : transition.before.Hits platform transition.label.record
    · rw [appendTimestamp_hit hits] at appended
      obtain rfl := Option.some.inj appended
      rw [remembers.sound_of_hits never hits hits.1, hits.2]
      rfl
    · rw [appendTimestamp_miss hits] at appended
      cases throws : transition.label.throws with
      | none =>
          rw [throws] at appended
          exact (Option.some.inj appended).symm
      | some length =>
          rw [throws] at appended
          cases appended

/-- The first rendering throws after the year, and the second call for that
second appends no more than it. -/
theorem timestamp_cut_short :
    ∃ left, (timestampMachine Platform.epoch).transitions {}
        [⟨[], {}, some 4⟩, ⟨[], {}, none⟩] =
          [⟨{}, ⟨[], {}, some 4⟩, left⟩, ⟨left, ⟨[], {}, none⟩, left⟩] ∧
      (appendTimestamp Platform.epoch none left [] {}).1 =
        some "1970".toList ∧
      ¬ ∀ transition ∈ (timestampMachine Platform.epoch).transitions {}
          [⟨[], {}, some 4⟩, ⟨[], {}, none⟩],
        AppendsWhole Platform.epoch transition := by
  exact ⟨⟨0, true, "1970".toList⟩, by decide +kernel, by decide +kernel,
    by decide +kernel⟩

end LogParse
