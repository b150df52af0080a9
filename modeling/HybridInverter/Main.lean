import HybridInverter.Application
import HybridInverter.Host.Computer

/-!
The command line of the program.
-/
open HybridInverter

def main (words : List String) : IO UInt32 := do
  let ending ← Application.start (← Computer.host) words
  ending.printed.forM fun text => IO.println text
  ending.complaint.forM fun text => IO.eprintln text
  return ending.code.toUInt32
