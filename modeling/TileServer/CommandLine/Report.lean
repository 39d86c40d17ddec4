namespace TileServer.CommandLine

inductive Ending
  | success
  | commandsFailed
  | rejected
  | fatal (text : String)
  deriving Repr, DecidableEq

def Ending.status : Ending → Nat
  | .success => 0
  | .commandsFailed => 2
  | .rejected => 2
  | .fatal _ => 1

structure Report where
  output : List String := []
  errors : List String := []
  ending : Ending := .success
  deriving Repr, DecidableEq

namespace Report

def fatal (text : String) : Report := { ending := .fatal text }

def rejected : Report := { ending := .rejected }

def line (text : String) : Report := { output := [text] }

def outputText (report : Report) : String :=
  String.join (report.output.map (fun line => line ++ "\n"))

def errorText (report : Report) : String :=
  String.join (report.errors.map (fun error => "ERROR: " ++ error ++ "\n"))

end Report

end TileServer.CommandLine
