import LiveTree.Event

namespace LiveTree

inductive Notice where
  | change (kind : EventKind) (c : Change)
  | keepAlive
  | cancel (reason : Option String)
  | authRevoked (reason : Option String)
  deriving DecidableEq, Repr

namespace Notice

def isTerminal : Notice → Bool
  | .cancel _ => true
  | .authRevoked _ => true
  | _ => false

def name : Notice → String
  | .change kind _ => kind.name
  | .keepAlive => "keep-alive"
  | .cancel _ => "cancel"
  | .authRevoked _ => "auth_revoked"

def payload : Notice → List Char
  | .change _ c => c.render
  | .keepAlive => Json.null.render
  | .cancel reason => (reason.elim Json.null Json.text).render
  | .authRevoked reason => (reason.elim Json.null Json.text).render

def prettyPayload : Notice → List Char
  | .change _ c => c.renderPretty
  | .keepAlive => Json.renderPretty 0 .null
  | .cancel reason => Json.renderPretty 0 (reason.elim Json.null Json.text)
  | .authRevoked reason => Json.renderPretty 0 (reason.elim Json.null Json.text)

end Notice

end LiveTree
