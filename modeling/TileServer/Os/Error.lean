namespace TileServer

inductive OsError
  | noEntry
  | noDevice
  | wouldBlock
  | denied
  | exists
  | notDirectory
  | isDirectory
  | invalidArgument
  | brokenPipe
  | nameTooLong
  | addressInUse
  | connectionReset
  | connectionRefused
  | tookNothing
  | pathTooLong
  | pathHoldsZero
  | nameHoldsZero
  | notText
  deriving Repr, DecidableEq

def OsError.numbered (text : String) (number : Nat) : String :=
  text ++ " (os error " ++ toString number ++ ")"

def OsError.message : OsError → String
  | .noEntry => numbered "No such file or directory" 2
  | .noDevice => numbered "No such device or address" 6
  | .wouldBlock => numbered "Resource temporarily unavailable" 11
  | .denied => numbered "Permission denied" 13
  | .exists => numbered "File exists" 17
  | .notDirectory => numbered "Not a directory" 20
  | .isDirectory => numbered "Is a directory" 21
  | .invalidArgument => numbered "Invalid argument" 22
  | .brokenPipe => numbered "Broken pipe" 32
  | .nameTooLong => numbered "File name too long" 36
  | .addressInUse => numbered "Address already in use" 98
  | .connectionReset => numbered "Connection reset by peer" 104
  | .connectionRefused => numbered "Connection refused" 111
  | .tookNothing => "write zero"
  | .pathTooLong => "path must be shorter than SUN_LEN"
  | .pathHoldsZero => "paths must not contain interior null bytes"
  | .nameHoldsZero => "file name contained an unexpected NUL byte"
  | .notText => "stream did not contain valid UTF-8"

end TileServer
