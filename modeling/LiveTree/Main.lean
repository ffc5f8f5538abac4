import LiveTree.CommandLine.Basic

namespace LiveTree.CommandLine

def readEnvironment : IO Environment := do
  let auth ← IO.getEnv "FIREBASE_AUTH"
  let timeoutMillis ← IO.getEnv "FIREBASE_TIMEOUT_MS"
  let proxy ← IO.getEnv "FIREBASE_PROXY"
  return ⟨auth, ⟨timeoutMillis, proxy⟩⟩

end LiveTree.CommandLine

open LiveTree in
def main (args : List String) : IO UInt32 := do
  let report := CommandLine.run .unreachable (← CommandLine.readEnvironment) args
  for l in report.log do
    if l.isShown then IO.println l.toText
  IO.print report.output
  match report.ending with
  | .failure c => IO.eprint c.text
  | _ => pure ()
  return UInt32.ofNat (report.ending.code?.getD 0)
