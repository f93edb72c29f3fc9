import Demonstrator.Java.LogSender.LogsToTCP

namespace LogSender

open Text

theorem digit_not_space (c : Char) (digit : c.isDigit) : isSpace c = false := by
  by_contra space
  have listed : isSpace c = true := by simpa using space
  simp only [isSpace, List.mem_cons, List.not_mem_nil, or_false, decide_eq_true_eq] at listed
  rcases listed with rfl | rfl | rfl | rfl | rfl | rfl
  all_goals exact absurd digit (by decide)

@[simp] theorem digits_spaceless (width n : Nat) : Spaceless isSpace (digits width n) := by
  intro c member
  rcases List.mem_append.mp member with padding | shown
  · rw [List.eq_of_mem_replicate padding]
    decide
  · exact digit_not_space c (Nat.isDigit_of_mem_toDigits (by decide) (by decide) shown)

theorem yearText_spaceless (year : Int) : Spaceless isSpace (yearText year) := by
  rw [yearText, spaceless_append]
  refine ⟨?_, digits_spaceless 4 _⟩
  split_ifs
  all_goals decide

theorem fractionText_spaceless (millis : Nat) : Spaceless isSpace (fractionText millis) := by
  rw [fractionText]
  split
  · decide
  · rw [spaceless_cons]
    refine ⟨by decide, ?_⟩
    intro c member
    apply digits_spaceless 3 millis c
    rw [← List.mem_reverse]
    exact (List.dropWhile_sublist _).mem (List.mem_reverse.mp member)

theorem isoLocalDateTime_spaceless (time : Int) : Spaceless isSpace (isoLocalDateTime time) := by
  have marks : isSpace '-' = false ∧ isSpace 'T' = false ∧ isSpace ':' = false := by decide
  simp [isoLocalDateTime, yearText_spaceless, fractionText_spaceless, marks]

theorem colon_mem_isoLocalDateTime (time : Int) : ':' ∈ isoLocalDateTime time := by
  simp [isoLocalDateTime]

theorem getLogLevel_word (level : Int) :
    getLogLevel level ≠ [] ∧ Spaceless isSpace (getLogLevel level) := by
  rw [getLogLevel]
  split_ifs
  all_goals decide

theorem filter_shape {grok : Grok} {line : List Char} {fields : Fields} (whole : '\n' ∉ line)
    (found : grok.filter line = some fields) :
    ∃ before gap₁ gap₂ gap₃ gap₄,
      line = before ++ fields.time ++ gap₁ ++ fields.host ++ gap₂ ++ fields.bundle ++ gap₃ ++ fields.level ++
        gap₄ ++ fields.msg ∧
      Blank isSpace gap₁ ∧ Blank isSpace gap₂ ∧ Blank isSpace gap₃ ∧ Blank isSpace gap₄ := by
  rw [Grok.filter] at found
  split at found
  · rename_i time gap₁ host gap₂ bundle gap₃ level gap₄ msg first
    cases found
    have all : ∀ symbol ∈ line, decide (symbol ≠ '\n') = true := by
      intro symbol member
      apply decide_eq_true
      intro newline
      exact whole (newline ▸ member)
    obtain ⟨before, text, yields⟩ := search_greedy all first
    have spaces : SPACE.Yields gap₁ ∧ SPACE.Yields gap₂ ∧ SPACE.Yields gap₃ ∧ SPACE.Yields gap₄ := by
      simp only [Grok.header, List.cons_append, List.nil_append, List.forall₂_cons] at yields
      exact ⟨yields.2.1, yields.2.2.2.1, yields.2.2.2.2.2.1, yields.2.2.2.2.2.2.2.1⟩
    refine ⟨before, gap₁, gap₂, gap₃, gap₄, ?_, yields_run spaces.1, yields_run spaces.2.1,
      yields_run spaces.2.2.1, yields_run spaces.2.2.2⟩
    simpa using text
  · cases found

/-- The time that the filter reads before the host name comes from the framework UUID: the host name it
    reads has to end the UUID, the word before the symbolic name. -/
theorem time_in_uuid {time host uuid before gap : List Char} (hostNonempty : host ≠ [])
    (hostSpaceless : Spaceless isSpace host) (timeNonempty : time ≠ []) (timeSpaceless : Spaceless isSpace time)
    (uuidSpaceless : Spaceless isSpace uuid) (blank : Blank isSpace gap)
    (same : before ++ time ++ gap ++ host = time ++ ' ' :: host ++ ' ' :: uuid) : time <:+: uuid := by
  have space : isSpace ' ' = true := by decide
  obtain ⟨front, rfl⟩ : host <:+ uuid := suffix_after_blank same hostSpaceless space
  have ahead : before ++ time ++ gap = time ++ ' ' :: host ++ ' ' :: front := by
    have ended : before ++ time ++ gap ++ host = (time ++ ' ' :: host ++ ' ' :: front) ++ host := by simpa using same
    exact List.append_cancel_right ended
  by_cases whole : front = []
  · subst whole
    have apart : before ++ time ++ gap = (time ++ [' ']) ++ host ++ [' '] := by simpa using ahead
    have one : Blank isSpace [' '] := by simp [Blank, space]
    obtain ⟨_, stamped⟩ := gap_unique apart blank one timeNonempty hostNonempty timeSpaceless hostSpaceless
    have split : before ++ time = time ++ ' ' :: host := by simpa using stamped
    exact (suffix_after_blank split timeSpaceless space).isInfix
  · have joined : before ++ time ++ gap = (time ++ ' ' :: host ++ [' ']) ++ front ++ [] := by simpa using ahead
    have none : Blank isSpace [] := by simp [Blank]
    have frontSpaceless : Spaceless isSpace front := (spaceless_append.mp uuidSpaceless).1
    obtain ⟨_, stamped⟩ := gap_unique joined blank none timeNonempty whole timeSpaceless frontSpaceless
    have split : before ++ time = (time ++ ' ' :: host) ++ ' ' :: front := by simpa using stamped
    exact (suffix_after_blank split timeSpaceless space).isInfix.trans (List.infix_append' [] front host)

theorem field_read {before word gap text word' later : List Char} (blank : Blank isSpace gap)
    (nonempty : word ≠ []) (spaceless : Spaceless isSpace word) (nonempty' : word' ≠ [])
    (spaceless' : Spaceless isSpace word')
    (same : before ++ word ++ gap ++ later = text ++ ' ' :: word' ++ ' ' :: later) :
    before ++ word = text ++ ' ' :: word' := by
  have ended : before ++ word ++ gap ++ later = (text ++ [' '] ++ word' ++ [' ']) ++ later := by simpa using same
  have one : Blank isSpace [' '] := by simp [Blank, isSpace]
  obtain ⟨_, read⟩ :=
    gap_unique (List.append_cancel_right ended) blank one nonempty nonempty' spaceless spaceless'
  simpa using read

theorem filter_line {grok : Grok} {logger : LogsToTCP} {entry : LogEntry} (whole : '\n' ∉ logger.line entry)
    (found : grok.filter (logger.line entry) = some (logger.fields entry)) :
    isoLocalDateTime entry.time <:+: logger.frameworkUUID.text := by
  obtain ⟨before, gap₁, gap₂, gap₃, gap₄, same, blank₁, blank₂, blank₃, blank₄⟩ := filter_shape whole found
  obtain ⟨levelNonempty, levelSpaceless⟩ := getLogLevel_word entry.level
  have timeNonempty : isoLocalDateTime entry.time ≠ [] := List.ne_nil_of_mem (colon_mem_isoLocalDateTime entry.time)
  have timeSpaceless := isoLocalDateTime_spaceless entry.time
  simp only [LogsToTCP.line, LogsToTCP.fields] at same
  generalize isoLocalDateTime entry.time = time at *
  generalize getLogLevel entry.level = level at *
  have upToLevel := field_read blank₄ levelNonempty levelSpaceless levelNonempty levelSpaceless same.symm
  have upToBundle := field_read blank₃ entry.symbolicName.nonempty entry.symbolicName.spaceless
    entry.symbolicName.nonempty entry.symbolicName.spaceless upToLevel
  have upToHost := field_read blank₂ logger.hostname.nonempty logger.hostname.spaceless
    logger.frameworkUUID.nonempty logger.frameworkUUID.spaceless upToBundle
  exact time_in_uuid logger.hostname.nonempty logger.hostname.spaceless timeNonempty timeSpaceless
    logger.frameworkUUID.spaceless blank₁ upToHost

theorem newline_not_mem_word (word : Word) : '\n' ∉ word.text := blank_not_mem word.spaceless (by decide)

theorem newline_not_mem_line {logger : LogsToTCP} {entry : LogEntry} (plain : '\n' ∉ entry.text) :
    '\n' ∉ logger.line entry := by
  have newline : isSpace '\n' = true := by decide
  have time := blank_not_mem (isoLocalDateTime_spaceless entry.time) newline
  have level := blank_not_mem (getLogLevel_word entry.level).2 newline
  simp [LogsToTCP.line, time, level, plain, newline_not_mem_word]

theorem round_trip_plain {grok : Grok} {logger : LogsToTCP} {entries : List LogEntry}
    (shipped : RoundTrip grok logger entries) : ∀ entry ∈ entries, '\n' ∉ entry.text := by
  intro entry logged newline
  have recovered : logger.fields entry ∈ grok.received (logger.stream entries) := by
    rw [shipped]
    exact List.mem_map_of_mem logged
  obtain ⟨line, cut, found⟩ := List.mem_filterMap.mp recovered
  have whole : '\n' ∉ line := mark_not_mem_line [] _ (by simp) line cut
  obtain ⟨before, gap₁, gap₂, gap₃, gap₄, same, _⟩ := filter_shape whole found
  rw [same] at whole
  exact whole (List.mem_append_right _ newline)

theorem round_trip_stamped {grok : Grok} {logger : LogsToTCP} {entries : List LogEntry}
    (shipped : RoundTrip grok logger entries) :
    ∀ entry ∈ entries, isoLocalDateTime entry.time <:+: logger.frameworkUUID.text := by
  have plain := round_trip_plain shipped
  have whole : ∀ entry ∈ entries, '\n' ∉ logger.line entry := by
    intro entry logged
    exact newline_not_mem_line (plain entry logged)
  have lines : cutLines '\n' [] (logger.stream entries) = entries.map logger.line :=
    cutLines_flatMap logger.line entries whole
  have received : grok.received (logger.stream entries) = entries.filterMap (grok.filter ∘ logger.line) := by
    rw [Grok.received, lines, List.filterMap_map]
  have matched : entries.filterMap (grok.filter ∘ logger.line) = entries.map logger.fields := by
    rw [← received]
    exact shipped
  intro entry logged
  have found := List.filterMap_eq_map_iff_forall_eq_some.mp matched entry logged
  rw [Function.comp_apply] at found
  exact filter_line (whole entry logged) found

theorem uuid_timeless {uuid : List Char}
    (hexadecimal : (uuid.all fun c => c ∈ "0123456789abcdefABCDEF-".toList) = true) (time : Int) :
    ¬ isoLocalDateTime time <:+: uuid := by
  intro inside
  have colon := List.all_eq_true.mp hexadecimal ':' (inside.subset (colon_mem_isoLocalDateTime time))
  exact absurd colon (by decide)

/-- Named patterns as logstash defines them, for times without a fraction and plain host names. -/
def logstash : Grok where
  TIMESTAMP_ISO8601 := .shape ("0000-00-00T00:00:00".toList.map fun mark c => if mark = '0' then c.isDigit else c = mark)
  IPORHOST := .run (fun c => c.isAlphanum || c = '.' || c = '-') 1
  LOGLEVEL := ["DEBUG".toList, "INFO".toList, "WARN".toList, "ERROR".toList]

def node : LogsToTCP :=
  ⟨⟨"node1".toList, by decide, by decide⟩, ⟨"6ba7b810-9dad-11d1-80b4-00c04fd430c8".toList, by decide, by decide⟩⟩

def started : LogEntry := ⟨0, ⟨"org.b".toList, by decide, by decide⟩, 3, "started now".toList, none⟩

/-- What is logged does not arrive as it was written: the pattern has no field for the framework UUID. An entry
    could only be recovered from a UUID that has the time of the entry in it, and no UUID has. -/
theorem round_trip_iff (grok : Grok) (logger : LogsToTCP) (entries : List LogEntry) :
    (RoundTrip grok logger entries →
      ∀ entry ∈ entries, isoLocalDateTime entry.time <:+: logger.frameworkUUID.text) ∧
    ((∀ entry ∈ entries, ¬ isoLocalDateTime entry.time <:+: logger.frameworkUUID.text) →
      (RoundTrip grok logger entries ↔ entries = [])) := by
  refine ⟨round_trip_stamped, fun timeless => ?_⟩
  constructor
  · intro shipped
    apply List.eq_nil_iff_forall_not_mem.mpr
    intro entry logged
    exact timeless entry logged (round_trip_stamped shipped entry logged)
  · intro empty
    subst empty
    rfl

theorem round_trip_iff_started :
    (∀ entry ∈ [started], ¬ isoLocalDateTime entry.time <:+: node.frameworkUUID.text) ∧
      (RoundTrip logstash node [started] ↔ [started] = []) := by
  have timeless : ∀ entry ∈ [started], ¬ isoLocalDateTime entry.time <:+: node.frameworkUUID.text := by
    intro entry _
    exact uuid_timeless (by decide) entry.time
  exact ⟨timeless, (round_trip_iff logstash node [started]).2 timeless⟩

theorem entry_not_recovered :
    node.line started =
      "1970-01-01T00:00:00 node1 6ba7b810-9dad-11d1-80b4-00c04fd430c8 org.b INFO started now".toList ∧
    logstash.received (node.stream [started]) = [] ∧ ¬ RoundTrip logstash node [started] := by
  have none : logstash.received (node.stream [started]) = [] := by decide
  refine ⟨by decide, none, ?_⟩
  rw [RoundTrip, none]
  exact List.cons_ne_nil _ _ |>.symm

end LogSender
