import DiceLanguage.Reader

/-!
# The console

A conversation over lines of bytes: each line is read as a roll and answered
with its text, its outline and its diagnostics. A blank line ends the
conversation, and so does a line that is not UTF-8. No line has any effect on
the answers to the lines after it.
-/

set_option autoImplicit false

namespace DiceLanguage.Console

open Text

def prompt : String := "> "

/-- The options that some arguments ask for: `-i` folds case, and no other
argument has a meaning. -/
def options (arguments : List String) : Options :=
  { Options.standard with foldsCase := arguments.contains "-i" }

def reader (arguments : List String) : Reader := .standard (options arguments)

inductive Reply where
  /-- What is printed, and what is printed on the error stream; the
  conversation goes on. -/
  | answer (output complaints : String)
  | farewell
  /-- What is printed on the error stream; the conversation has failed. -/
  | failure (complaints : String)
  deriving DecidableEq

namespace Reply

def output : Reply → String
  | .answer output _ => output
  | .farewell | .failure _ => ""

def complaints : Reply → String
  | .answer _ complaints | .failure complaints => complaints
  | .farewell => ""

/-- The exit code, once the conversation is over. -/
def exitCode? : Reply → Option Nat
  | .answer .. => none
  | .farewell => some 0
  | .failure _ => some 1

end Reply

def decode? (line : List UInt8) : Option String := String.fromUTF8? ⟨line.toArray⟩

def isBlankText (text : String) : Bool := text.toList.all isBlank

def notUtf8 : String :=
  "Error: Error \x7b kind: InvalidData, message: \"stream did not contain valid UTF-8\" \x7d\n"

def complaint (diagnostic : Diagnostic) : String := "Error: " ++ diagnostic.message ++ "\n"

def shown (roll : Roll) : String := roll.render ++ "\n" ++ roll.outline.render ++ "\n"

def reply (reader : Reader) (line : List UInt8) : Reply :=
  match decode? line with
  | none => .failure notUtf8
  | some text =>
      if isBlankText text then
        .farewell
      else
        let outcome := reader.read text
        .answer (shown outcome.roll) (String.join (outcome.diagnostics.map complaint))

structure Transcript where
  output : String
  complaints : String
  exitCode : Nat
  deriving DecidableEq

/-- The conversation over some lines. Where they end, so does the conversation. -/
def converse (reader : Reader) : List (List UInt8) → Transcript
  | [] => ⟨prompt, "", 0⟩
  | line :: rest =>
      let reply := reply reader line
      match reply.exitCode? with
      | some exitCode => ⟨prompt ++ reply.output, reply.complaints, exitCode⟩
      | none =>
          let later := converse reader rest
          { output := prompt ++ reply.output ++ later.output
            complaints := reply.complaints ++ later.complaints
            exitCode := later.exitCode }

/-! ## Lines of bytes -/

/-- A line without the carriage return at its end; lines in progress are held
latest byte first. -/
def withoutReturn : List UInt8 → List UInt8
  | [] => []
  | last :: earlier => if last = 0x0d then earlier else last :: earlier

inductive Typing where
  | going (current : List UInt8)
  | done (line : List UInt8)

/-- Adds a byte to a line in progress. A line ends at a line feed, which is no
part of it, nor is a carriage return just before. -/
def type (current : List UInt8) (byte : UInt8) : Typing :=
  if byte = 0x0a then .done (withoutReturn current).reverse else .going (byte :: current)

/-- The line in progress where the input ends: bytes after the last line feed
are a line too. -/
def lastLine? (current : List UInt8) : Option (List UInt8) :=
  if current.isEmpty then none else some current.reverse

/-- The lines of some bytes, after those of the line in progress. -/
def linesFrom (current : List UInt8) : List UInt8 → List (List UInt8)
  | [] => (lastLine? current).toList
  | byte :: rest =>
      match type current byte with
      | .done line => line :: linesFrom [] rest
      | .going current => linesFrom current rest

def lines (bytes : List UInt8) : List (List UInt8) := linesFrom [] bytes

def transcript (arguments : List String) (input : List UInt8) : Transcript :=
  converse (reader arguments) (lines input)

end DiceLanguage.Console
