import LiveTree.Settings

namespace LiveTree.CommandLine

inductive Command where
  | get
  | set (raw : String)
  | update (raw : String)
  | push (raw : String)
  | remove
  | watch (replicating : Bool)
  deriving DecidableEq, Repr

structure Options where
  url : Option String
  auth : Option String
  shallow : Bool
  timeoutMillis : Option Nat
  deriving DecidableEq, Repr

structure Invocation where
  url : String
  auth : Option String
  shallow : Bool
  timeoutMillis : Option Nat
  command : Command
  deriving DecidableEq, Repr

/-- Why arguments make no invocation: they ask for help, or they are wrong. -/
inductive Usage where
  | help
  | mistake
  deriving DecidableEq, Repr

inductive Token where
  | escape
  | long (name : String) (value : Option String)
  | short (letter : Char)
  | plain (text : String)
  deriving DecidableEq, Repr

/-- The part of a long option behind its dashes: a name, and a value behind an equals sign. -/
def longToken (cs : List Char) : Token :=
  let name := cs.takeWhile (· ≠ '=')
  match cs.drop name.length with
  | [] => .long (String.ofList name) none
  | _ :: value => .long (String.ofList name) (some (String.ofList value))

def tokenOf (arg : String) : Token :=
  match arg.toList with
  | '-' :: '-' :: [] => .escape
  | '-' :: '-' :: cs => longToken cs
  | '-' :: c :: _ => .short c
  | _ => .plain arg

def usageOf : Token → Usage
  | .long "help" none => .help
  | .short 'h' => .help
  | _ => .mistake

/-- The plain arguments of a command, of which it takes so many at most. Behind an escape they may
have any form. -/
def operands : Nat → List String → Except Usage (List String)
  | _, [] => .ok []
  | most, a :: rest =>
      match tokenOf a, most with
      | .escape, most => if rest.length ≤ most then .ok rest else .error .mistake
      | .plain text, most + 1 => (operands most rest).map (text :: ·)
      | t, _ => .error (usageOf t)

def oneValue (args : List String) : Except Usage String := do
  match ← operands 1 args with
  | value :: _ => .ok value
  | [] => .error .mistake

def noValue (args : List String) : Except Usage Unit := do
  let _ ← operands 0 args

def watchFlag (args : List String) : Except Usage Bool := do
  match args with
  | "--mirror" :: rest =>
      noValue rest
      .ok true
  | args =>
      noValue args
      .ok false

def commandNames : List String := ["get", "set", "update", "push", "remove", "watch", "help"]

def helpOn : List String → Usage
  | [] => .help
  | [name] => if commandNames.contains name then .help else .mistake
  | _ => .mistake

def command? (name : String) (args : List String) : Option (Except Usage Command) :=
  match name with
  | "get" => some ((noValue args).map fun _ => .get)
  | "set" => some ((oneValue args).map .set)
  | "update" => some ((oneValue args).map .update)
  | "push" => some ((oneValue args).map .push)
  | "remove" => some ((noValue args).map fun _ => .remove)
  | "watch" => some ((watchFlag args).map .watch)
  | "help" => some (.error (helpOn args))
  | _ => none

def setAuth (o : Options) (value : String) : Except Usage Options :=
  if o.auth.isSome then .error .mistake else .ok { o with auth := some value }

def setTimeout (o : Options) (value : String) : Except Usage Options :=
  match Settings.parseMillis value.toList with
  | none => .error .mistake
  | some n =>
      if o.timeoutMillis.isSome then .error .mistake else .ok { o with timeoutMillis := some n }

def setShallow (o : Options) : Except Usage Options :=
  if o.shallow then .error .mistake else .ok { o with shallow := true }

def setOption (o : Options) (name : String) (value : Option String) : Except Usage Options :=
  match name, value with
  | "auth", some v => setAuth o v
  | "timeout-ms", some v => setTimeout o v
  | "shallow", none => setShallow o
  | _, _ => .error .mistake

def takesNext (name : String) : Bool :=
  name = "auth" || name = "timeout-ms"

def finish (o : Options) (c : Command) : Except Usage Invocation :=
  match o.url with
  | none => .error .mistake
  | some url => .ok ⟨url, o.auth, o.shallow, o.timeoutMillis, c⟩

def parseFrom (o : Options) : List String → Except Usage Invocation
  | [] => .error .mistake
  | a :: rest =>
      match tokenOf a with
      | .escape => .error .mistake
      | .short letter => .error (usageOf (.short letter))
      | .long name none =>
          if takesNext name then
            match rest with
            | [] => .error .mistake
            | b :: rest =>
                match tokenOf b with
                | .plain value => setOption o name (some value) >>= fun o => parseFrom o rest
                | _ => .error .mistake
          else if name = "help" then .error .help
          else setOption o name none >>= fun o => parseFrom o rest
      | .long name (some value) => setOption o name (some value) >>= fun o => parseFrom o rest
      | .plain text =>
          match command? text rest with
          | some c => c >>= finish o
          | none =>
              if o.url.isSome then .error .mistake else parseFrom { o with url := some text } rest

def parse (args : List String) : Except Usage Invocation :=
  parseFrom ⟨none, none, false, none⟩ args

end LiveTree.CommandLine
