import DiceLanguage.Proofs.Diagnosis.Message
import DiceLanguage.Proofs.Text.Utf8
import Mathlib.Algebra.GroupWithZero.Nat

/-!
# Conversations

Lines are answered one by one, and no answer depends on another line. So the
transcript of some lines followed by more input is that of the lines followed
by that of the input, and a blank line or one that is not UTF-8 ends it, whatever
comes after: main statement `Console.transcript_of_asked`.
-/

set_option autoImplicit false

namespace DiceLanguage.Console

open Text

def sent (lines : List (List UInt8)) : List UInt8 := lines.flatMap (· ++ [0x0a])

/-- A line that asks for a roll: it is UTF-8, and it is not blank. -/
def IsAsked (line : List UInt8) : Prop :=
  0x0a ∉ line ∧ ∃ text, decode? line = some text ∧ isBlankText text = false

def chomped (line : List UInt8) : List UInt8 := (withoutReturn line.reverse).reverse

def lineText? (line : List UInt8) : Option String := decode? (chomped line)

def errorLines (text : String) : Nat :=
  (text.toList.splitOn '\n').countP ("Error:".toList.isPrefixOf ·)

/-! ## Lines -/

private theorem linesFrom_append {line : List UInt8} (whole : 0x0a ∉ line)
    (current rest : List UInt8) :
    linesFrom current (line ++ 0x0a :: rest) =
      (withoutReturn (line.reverse ++ current)).reverse :: lines rest := by
  induction line generalizing current with
  | nil => rfl
  | cons byte line ih =>
      rw [List.mem_cons, not_or] at whole
      have going : type current byte = .going (byte :: current) := if_neg (Ne.symm whole.1)
      have step : linesFrom current (byte :: (line ++ 0x0a :: rest)) =
          linesFrom (byte :: current) (line ++ 0x0a :: rest) := by
        rw [linesFrom, going]
      rw [List.cons_append, step, ih whole.2, List.reverse_cons, List.append_assoc,
        List.singleton_append]

theorem lines_append {line : List UInt8} (whole : 0x0a ∉ line) (rest : List UInt8) :
    lines (line ++ 0x0a :: rest) = chomped line :: lines rest := by
  rw [lines, linesFrom_append whole, List.append_nil, chomped]

theorem lines_sent_append {asked : List (List UInt8)} (whole : ∀ line ∈ asked, 0x0a ∉ line)
    (rest : List UInt8) : lines (sent asked ++ rest) = asked.map chomped ++ lines rest := by
  induction asked with
  | nil => rfl
  | cons line asked ih =>
      obtain ⟨first, others⟩ := List.forall_mem_cons.mp whole
      have split : sent (line :: asked) ++ rest = line ++ 0x0a :: (sent asked ++ rest) := by
        simp [sent]
      rw [split, lines_append first, ih others, List.map_cons, List.cons_append]

private theorem chomped_cases (line : List UInt8) :
    chomped line = line ∨ line = chomped line ++ [0x0d] := by
  rcases List.eq_nil_or_concat line with rfl | ⟨earlier, last, rfl⟩
  · exact .inl rfl
  · simp only [chomped, List.concat_eq_append, List.reverse_append, List.reverse_singleton,
      List.singleton_append, withoutReturn]
    split
    next same => exact .inr (by rw [same, List.reverse_reverse])
    next => exact .inl (by simp)

private theorem isBlankText_push_return (text : String) :
    isBlankText (text.push '\r') = isBlankText text := by
  have blank : isBlank '\r' = true := by decide
  simp [isBlankText, blank]

/-- A line has a text with its carriage return exactly when it has one without,
and both texts are blank or neither. -/
private theorem isBlankText_chomped (line : List UInt8) :
    (decode? (chomped line)).map isBlankText = (decode? line).map isBlankText := by
  rcases chomped_cases line with same | ended
  · rw [same]
  · conv => rhs; rw [ended, decode?_append_return, Option.map_map]
    congr 1
    funext text
    exact (isBlankText_push_return text).symm

/-! ## Replies -/

private theorem reply_of_isAsked (reader : Reader) {line : List UInt8} (asked : IsAsked line) :
    ∃ text, lineText? line = some text ∧
      reply reader (chomped line) =
        .answer (shown (reader.read text).roll)
          (String.join ((reader.read text).diagnostics.map complaint)) := by
  obtain ⟨_, given, decoded, blank⟩ := asked
  have same := isBlankText_chomped line
  rw [decoded, Option.map_some, blank, Option.map_eq_some_iff] at same
  obtain ⟨text, chomped, blank⟩ := same
  refine ⟨text, chomped, ?_⟩
  simp [reply, chomped, blank]

private theorem reply_of_blank (reader : Reader) {line : List UInt8} {text : String}
    (decoded : decode? line = some text) (blank : isBlankText text = true) :
    reply reader (chomped line) = .farewell := by
  have same := isBlankText_chomped line
  rw [decoded, Option.map_some, blank, Option.map_eq_some_iff] at same
  obtain ⟨other, chomped, blank⟩ := same
  simp [reply, chomped, blank]

private theorem reply_of_not_utf8 (reader : Reader) {line : List UInt8}
    (undecoded : decode? line = none) :
    reply reader (chomped line) = .failure notUtf8 := by
  have same := isBlankText_chomped line
  rw [undecoded, Option.map_none, Option.map_eq_none_iff] at same
  simp [reply, same]

/-! ## Transcripts -/

private theorem converse_of_answer {reader : Reader} {line : List UInt8}
    {output complaints : String}
    (answered : reply reader line = .answer output complaints) (rest : List (List UInt8)) :
    converse reader (line :: rest) =
      { output := prompt ++ output ++ (converse reader rest).output
        complaints := complaints ++ (converse reader rest).complaints
        exitCode := (converse reader rest).exitCode } := by
  rw [converse, answered]
  rfl

private theorem converse_of_farewell {reader : Reader} {line : List UInt8}
    (ended : reply reader line = .farewell) (rest : List (List UInt8)) :
    converse reader (line :: rest) = ⟨prompt, "", 0⟩ := by
  rw [converse, ended]
  rfl

private theorem converse_of_failure {reader : Reader} {line : List UInt8} {complaints : String}
    (failed : reply reader line = .failure complaints) (rest : List (List UInt8)) :
    converse reader (line :: rest) = ⟨prompt, complaints, 1⟩ := by
  rw [converse, failed]
  rfl

private theorem exists_output_converse (reader : Reader) (lines : List (List UInt8)) :
    ∃ later, (converse reader lines).output = prompt ++ later := by
  cases lines with
  | nil => exact ⟨"", rfl⟩
  | cons line rest =>
      cases said : reply reader line with
      | answer output complaints =>
          rw [converse_of_answer said]
          exact ⟨output ++ (converse reader rest).output, String.append_assoc⟩
      | farewell => exact ⟨"", by rw [converse_of_farewell said, String.append_empty]⟩
      | failure => exact ⟨"", by rw [converse_of_failure said, String.append_empty]⟩

theorem converse_append {reader : Reader} {asked rest : List (List UInt8)} {later : String}
    (answered : ∀ line ∈ asked, ∃ output complaints, reply reader line = .answer output complaints)
    (shown : (converse reader rest).output = prompt ++ later) :
    converse reader (asked ++ rest) =
      { output := (converse reader asked).output ++ later
        complaints := (converse reader asked).complaints ++ (converse reader rest).complaints
        exitCode := (converse reader rest).exitCode } := by
  induction asked with
  | nil => simp [converse, ← shown]
  | cons line asked ih =>
      obtain ⟨⟨output, complaints, first⟩, others⟩ := List.forall_mem_cons.mp answered
      simp only [List.cons_append, converse_of_answer first, ih others, String.append_assoc]

private theorem lines_sent {asked : List (List UInt8)} (areAsked : ∀ line ∈ asked, IsAsked line) :
    lines (sent asked) = asked.map chomped := by
  have nothing : lines [] = [] := rfl
  simpa only [nothing, List.append_nil] using
    lines_sent_append (fun line member => (areAsked line member).1) []

private theorem transcript_sent_append (arguments : List String) {asked : List (List UInt8)}
    (areAsked : ∀ line ∈ asked, IsAsked line) {input : List UInt8} {later : String}
    (shown : (transcript arguments input).output = prompt ++ later) :
    transcript arguments (sent asked ++ input) =
      { output := (transcript arguments (sent asked)).output ++ later
        complaints :=
          (transcript arguments (sent asked)).complaints ++ (transcript arguments input).complaints
        exitCode := (transcript arguments input).exitCode } := by
  have whole : ∀ line ∈ asked, 0x0a ∉ line := fun line member => (areAsked line member).1
  have answered : ∀ line ∈ asked.map chomped,
      ∃ output complaints, reply (reader arguments) line = .answer output complaints := by
    intro line member
    obtain ⟨given, among, rfl⟩ := List.mem_map.mp member
    obtain ⟨_, _, answer⟩ := reply_of_isAsked (reader arguments) (areAsked given among)
    exact ⟨_, _, answer⟩
  rw [transcript, transcript, lines_sent_append whole, lines_sent areAsked]
  exact converse_append answered shown

/-- Input that ends the conversation without an answer adds no output. -/
private theorem transcript_sent_append_ended {arguments : List String} {asked : List (List UInt8)}
    (areAsked : ∀ line ∈ asked, IsAsked line) {input : List UInt8} {complaints : String}
    {exitCode : Nat} (ended : transcript arguments input = ⟨prompt, complaints, exitCode⟩) :
    transcript arguments (sent asked ++ input) =
      { output := (transcript arguments (sent asked)).output
        complaints := (transcript arguments (sent asked)).complaints ++ complaints
        exitCode := exitCode } := by
  have shown : (transcript arguments input).output = prompt ++ "" := by
    rw [ended, String.append_empty]
  rw [transcript_sent_append arguments areAsked shown, ended, String.append_empty]

private theorem transcript_sent_blank (arguments : List String) {line : List UInt8} {text : String}
    (whole : 0x0a ∉ line) (decoded : decode? line = some text) (blank : isBlankText text = true)
    (input : List UInt8) : transcript arguments (sent [line] ++ input) = ⟨prompt, "", 0⟩ := by
  rw [transcript, lines_sent_append (List.forall_mem_singleton.mpr whole), List.map_singleton,
    List.singleton_append, converse_of_farewell (reply_of_blank _ decoded blank)]

private theorem transcript_sent_not_utf8 (arguments : List String) {line : List UInt8}
    (whole : 0x0a ∉ line) (undecoded : decode? line = none) (input : List UInt8) :
    transcript arguments (sent [line] ++ input) = ⟨prompt, notUtf8, 1⟩ := by
  rw [transcript, lines_sent_append (List.forall_mem_singleton.mpr whole), List.map_singleton,
    List.singleton_append, converse_of_failure (reply_of_not_utf8 _ undecoded)]

/-! ## Complaints -/

private theorem errorLines_complaint_append {diagnostic : Diagnostic}
    (oneLine : IsOneLine diagnostic.message) (rest : String) :
    errorLines (complaint diagnostic ++ rest) = errorLines rest + 1 := by
  have split : (complaint diagnostic ++ rest).toList =
      ("Error: ".toList ++ diagnostic.message.toList) ++ '\n' :: rest.toList := by
    simp [complaint]
  have whole : '\n' ∉ "Error: ".toList ++ diagnostic.message.toList := by
    rw [List.mem_append, not_or]
    exact ⟨by simp, oneLine⟩
  rw [errorLines, split, List.splitOn_append_cons_self_of_not_mem whole, List.countP_cons_of_pos]
  · rfl
  · simp

private theorem errorLines_complaints_append {diagnostics : List Diagnostic}
    (oneLine : ∀ diagnostic ∈ diagnostics, IsOneLine diagnostic.message) (rest : String) :
    errorLines (String.join (diagnostics.map complaint) ++ rest) =
      errorLines rest + diagnostics.length := by
  induction diagnostics with
  | nil => simp
  | cons diagnostic diagnostics ih =>
      obtain ⟨first, others⟩ := List.forall_mem_cons.mp oneLine
      rw [List.map_cons, String.join_cons, String.append_assoc, errorLines_complaint_append first,
        ih others, List.length_cons, Nat.add_assoc]

private theorem errorLines_converse (options : Options) {asked : List (List UInt8)}
    (areAsked : ∀ line ∈ asked, IsAsked line) :
    ∃ texts : List String, asked.map lineText? = texts.map some ∧
      errorLines (converse (.standard options) (asked.map chomped)).complaints =
        (texts.map fun text => ((Reader.standard options).read text).diagnostics.length).sum := by
  induction asked with
  | nil => exact ⟨[], rfl, by simp [converse, errorLines]⟩
  | cons line asked ih =>
      obtain ⟨first, others⟩ := List.forall_mem_cons.mp areAsked
      obtain ⟨text, decoded, answer⟩ := reply_of_isAsked (.standard options) first
      obtain ⟨texts, decodedOthers, count⟩ := ih others
      have oneLine : ∀ diagnostic ∈ ((Reader.standard options).read text).diagnostics,
          IsOneLine diagnostic.message := fun diagnostic member =>
        Reader.isOneLine_message_of_mem_read options text member
      refine ⟨text :: texts, ?_, ?_⟩
      · rw [List.map_cons, List.map_cons, decoded, decodedOthers]
      · rw [List.map_cons, List.map_cons, List.sum_cons, ← count, Nat.add_comm,
          ← errorLines_complaints_append oneLine, converse_of_answer answer]

/-- What a conversation says to some lines, whatever is sent after them. -/
structure Independent (arguments : List String) (asked : List (List UInt8)) : Prop where
  /-- More input is answered as if it came first, without another prompt. -/
  continues : ∀ input, ∃ later, (transcript arguments input).output = prompt ++ later ∧
    transcript arguments (sent asked ++ input) =
      { output := (transcript arguments (sent asked)).output ++ later
        complaints :=
          (transcript arguments (sent asked)).complaints ++ (transcript arguments input).complaints
        exitCode := (transcript arguments input).exitCode }
  ofBlank : ∀ line text input, 0x0a ∉ line → decode? line = some text → isBlankText text = true →
    transcript arguments (sent asked ++ (sent [line] ++ input)) =
      { output := (transcript arguments (sent asked)).output
        complaints := (transcript arguments (sent asked)).complaints
        exitCode := 0 }
  ofNotUtf8 : ∀ line input, 0x0a ∉ line → decode? line = none →
    transcript arguments (sent asked ++ (sent [line] ++ input)) =
      { output := (transcript arguments (sent asked)).output
        complaints := (transcript arguments (sent asked)).complaints ++ notUtf8
        exitCode := 1 }
  /-- There is a line of complaint for each diagnostic of each line. -/
  complains : ∃ texts : List String, asked.map lineText? = texts.map some ∧
    errorLines (transcript arguments (sent asked)).complaints =
      (texts.map fun text =>
        ((Reader.standard ⟨.bestEffort, arguments.contains "-i"⟩).read text).diagnostics.length).sum

theorem transcript_of_asked (arguments : List String) {asked : List (List UInt8)}
    (areAsked : ∀ line ∈ asked, IsAsked line) : Independent arguments asked where
  continues input := by
    obtain ⟨later, shown⟩ := exists_output_converse (reader arguments) (lines input)
    exact ⟨later, shown, transcript_sent_append arguments areAsked shown⟩
  ofBlank line text input whole decoded blank := by
    have ended := transcript_sent_blank arguments whole decoded blank input
    simpa only [String.append_empty] using transcript_sent_append_ended areAsked ended
  ofNotUtf8 line input whole undecoded :=
    transcript_sent_append_ended areAsked
      (transcript_sent_not_utf8 arguments whole undecoded input)
  complains := by
    rw [transcript, lines_sent areAsked]
    exact errorLines_converse _ areAsked

/-- `2d6` with a carriage return, and an accented letter. -/
theorem transcript_of_asked_folding :
    (∀ line ∈ [[0x32, 0x64, 0x36, 0x0d], [0xc3, 0xa9]], IsAsked line) ∧
      Independent ["-i"] [[0x32, 0x64, 0x36, 0x0d], [0xc3, 0xa9]] := by
  have areAsked : ∀ line ∈ [[0x32, 0x64, 0x36, 0x0d], [0xc3, 0xa9]], IsAsked line := by
    refine List.forall_mem_cons.mpr ⟨⟨by decide, "2d6\r", ?_, by decide⟩,
      List.forall_mem_singleton.mpr ⟨by decide, "\u00e9", ?_, by decide⟩⟩
    · exact decode?_eq_some_iff.mpr (by decide)
    · exact decode?_eq_some_iff.mpr (by decide)
  exact ⟨areAsked, transcript_of_asked ["-i"] areAsked⟩

end DiceLanguage.Console
