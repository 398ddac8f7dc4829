import DiceLanguage.Console

/-!
# The program

The conversation of `DiceLanguage.Console` over the standard streams. A line
is answered before the next one is awaited.
-/

set_option autoImplicit false

namespace DiceLanguage.Console

/-- Takes bytes until a line is done; `none` at the end of the input. -/
partial def nextLine? (input : IO.FS.Stream) (current : List UInt8) :
    IO (Option (List UInt8)) := do
  match (← input.read 1).data.toList with
  | [] => return lastLine? current
  | byte :: _ =>
      match type current byte with
      | .done line => return some line
      | .going current => nextLine? input current

partial def run (reader : Reader) : IO UInt32 := do
  let output ← IO.getStdout
  output.putStr prompt
  output.flush
  match ← nextLine? (← IO.getStdin) [] with
  | none => return 0
  | some line =>
      let reply := reply reader line
      output.putStr reply.output
      (← IO.getStderr).putStr reply.complaints
      match reply.exitCode? with
      | some exitCode => return exitCode.toUInt32
      | none => run reader

end DiceLanguage.Console

def main (arguments : List String) : IO UInt32 :=
  DiceLanguage.Console.run (DiceLanguage.Console.reader arguments)
