import LiveTree.Notice
import LiveTree.Text.Split

namespace LiveTree.Stream

def eventLine (name : String) : List Char :=
  "event: ".toList ++ name.toList ++ ['\n']

def dataLine (line : List Char) : List Char :=
  "data: ".toList ++ line ++ ['\n']

def writeRecord (name : String) (data : List (List Char)) : List Char :=
  eventLine name ++ (data.flatMap dataLine ++ ['\n'])

def writeNotice (n : Notice) : List Char :=
  writeRecord n.name [n.payload]

def writeSpread (n : Notice) : List Char :=
  writeRecord n.name (Text.splitOn '\n' n.prettyPayload)

def write (notices : List Notice) : List UInt8 :=
  Text.Utf8.encode (notices.flatMap writeNotice)

def writeAllSpread (notices : List Notice) : List UInt8 :=
  Text.Utf8.encode (notices.flatMap writeSpread)

end LiveTree.Stream
