namespace LiveTree.Log

inductive Level where
  | info
  | warn
  deriving DecidableEq, Repr

inductive Source where
  | settings
  | watch
  | command
  deriving DecidableEq, Repr

def Source.target : Source → String
  | .settings => "firebase_http::client::config"
  | .watch => "firebase_http::client::watch"
  | .command => "firebase"

/-- A line of the log. What is logged below the level of information is left out. -/
structure Line where
  level : Level
  source : Source
  text : String
  deriving DecidableEq, Repr

/-- Whether a line is shown where no other filter is asked for: warnings of the command, and all
lines of the client. -/
def Line.isShown (l : Line) : Bool :=
  l.level = .warn || "firebase_http".toList.isPrefixOf l.source.target.toList

/-- What a line shows behind its time. -/
def Line.toText (l : Line) : String :=
  (match l.level with
    | .info => " INFO "
    | .warn => " WARN ") ++ l.source.target ++ ": " ++ l.text

end LiveTree.Log
