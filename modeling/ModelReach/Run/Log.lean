/-! Records of what a run does. -/
namespace ModelReach.Run
set_option autoImplicit false

inductive Level where
  | debug
  | info
  | warning
  deriving DecidableEq, Repr

def Level.name : Level → String
  | .debug => "DEBUG"
  | .info => "INFO"
  | .warning => "WARNING"

structure LogRecord where
  level : Level
  logger : String
  message : String
  deriving DecidableEq, Repr

/-- Is a record shown? Only warnings are, unless all is. -/
def LogRecord.isShown (verbose : Bool) (r : LogRecord) : Bool := verbose || r.level = .warning

def LogRecord.line (r : LogRecord) : String := r.level.name ++ " " ++ r.logger ++ ": " ++ r.message

end ModelReach.Run
