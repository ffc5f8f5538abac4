import LiveTree.Stream.Source

namespace LiveTree.Stream

def completeLines : List UInt8 → List (List UInt8)
  | [] => []
  | b :: rest =>
      if b = lineFeed then [b] :: completeLines rest
      else match completeLines rest with
        | [] => []
        | line :: lines => (b :: line) :: lines

def unfinishedLine : List UInt8 → List UInt8
  | [] => []
  | b :: rest => if lineFeed ∈ b :: rest then unfinishedLine rest else b :: rest

theorem completeLines_eq_nil_iff (bytes : List UInt8) :
    completeLines bytes = [] ↔ lineFeed ∉ bytes := by
  induction bytes with
  | nil => simp [completeLines]
  | cons b rest ih =>
      simp only [completeLines, List.mem_cons, not_or]
      split
      · next hb => simp [hb]
      · next hb =>
          split
          · next hn => simp [ih.1 hn, Ne.symm hb]
          · next line lines hn => simp [← ih, hn]

structure Transcript where
  pending : Pending
  items : List Item
  status : Status

namespace Transcript

def empty : Transcript :=
  ⟨Pending.empty, [], .reading⟩

def closeRecord (t : Transcript) : Transcript :=
  if t.pending.isEmpty then t
  else match t.pending.decode with
    | .ok n =>
        ⟨Pending.empty, t.items ++ [.ok n], if n.isTerminal then .finished else .reading⟩
    | .error f => ⟨Pending.empty, t.items ++ [.error f], .failed⟩

def addLine (t : Transcript) (raw : List UInt8) : Transcript :=
  if t.status ≠ .reading then t
  else match Decoder.lineText raw with
    | .error flaw =>
        ⟨t.pending, t.items ++
          [.error (.decode ("invalid UTF-8 in event stream: " ++ flaw.message))], .failed⟩
    | .ok [] => t.closeRecord
    | .ok line => { t with pending := t.pending.pushLine line }

def ofBytes (bytes : List UInt8) : Transcript :=
  (completeLines bytes).foldl addLine empty

end Transcript

def splitBody : List Piece → List UInt8 × Option Failure
  | [] => ([], none)
  | .error f :: _ => ([], some f)
  | .ok chunk :: rest => (chunk ++ (splitBody rest).1, (splitBody rest).2)

/-- All items of a body. A failure of the body counts if the bytes before it did not end the
stream. -/
def itemsOf (body : List Piece) : List Item :=
  let t := Transcript.ofBytes (splitBody body).1
  if t.status = .reading then t.items ++ (splitBody body).2.toList.map .error else t.items

end LiveTree.Stream
