import GraphqlBindings.Http.Exchange

namespace GraphqlBindings.Http

def lineEnd : String := "\r\n"

def headerLine (header : String × String) : String := header.1 ++ ": " ++ header.2 ++ lineEnd

def Request.messageHeaders (r : Request) : Headers :=
  [("host", r.url.host.text ++ r.url.portText), ("accept", "*/*"), ("connection", "close"),
    ("content-length", toString r.body.utf8ByteSize)]

def Request.message (r : Request) : String :=
  r.line ++ lineEnd ++
    String.join ((r.headers.fill r.messageHeaders).map headerLine) ++ lineEnd ++ r.body

def splitLine : List UInt8 → Option (List UInt8 × List UInt8)
  | [] => none
  | 13 :: 10 :: rest => some ([], rest)
  | b :: rest => (splitLine rest).map fun (line, rest) => (b :: line, rest)

theorem length_splitLine {bytes line rest : List UInt8} (h : splitLine bytes = some (line, rest)) :
    rest.length < bytes.length := by
  fun_induction splitLine bytes generalizing line with
  | case1 => simp at h
  | case2 rest =>
    simp only [Option.some.injEq, Prod.mk.injEq] at h
    obtain ⟨_, rfl⟩ := h
    simp only [List.length_cons]
    omega
  | case3 b r _ ih =>
    obtain ⟨⟨l, s⟩, hs, he⟩ := Option.map_eq_some_iff.1 h
    simp only [Prod.mk.injEq] at he
    obtain ⟨rfl, rfl⟩ := he
    have := ih hs
    simp only [List.length_cons]
    omega

def asciiText (bytes : List UInt8) : List Char := bytes.map fun b => Char.ofNat b.toNat

def header? (line : List UInt8) : Option (String × String) :=
  let cs := asciiText line
  let isSpace (c : Char) : Bool := c == ' ' || c == '\t'
  match cs.dropWhile (· != ':') with
  | _ :: value =>
    let value := ((value.dropWhile isSpace).reverse.dropWhile isSpace).reverse
    some (.ofList ((cs.takeWhile (· != ':')).map Char.toLower), .ofList value)
  | [] => none

def splitHeaders (bytes : List UInt8) : Option (List (String × String) × List UInt8) :=
  match _h : splitLine bytes with
  | none => none
  | some ([], body) => some ([], body)
  | some (line, rest) => do
    let header ← header? line
    let (headers, body) ← splitHeaders rest
    pure (header :: headers, body)
termination_by bytes.length
decreasing_by exact length_splitLine _h

def chunkSize? (line : List UInt8) : Option Nat :=
  Url.numberIn? 16 ((asciiText line).takeWhile fun c => c != ';' && c != ' ')

def joinChunks (bytes : List UInt8) : Option (List UInt8) :=
  match _h : splitLine bytes with
  | none => none
  | some (line, rest) => do
    let size ← chunkSize? line
    if size = 0 then some []
    else do
      let data ← joinChunks (rest.drop (size + 2))
      pure (rest.take size ++ data)
termination_by bytes.length
decreasing_by
  have := length_splitLine _h
  simp only [List.length_drop]
  omega

def bodyOf (headers : List (String × String)) (bytes : List UInt8) : Option (List UInt8) :=
  if headers.lookup "transfer-encoding" = some "chunked" then joinChunks bytes
  else match (headers.lookup "content-length").bind (·.toNat?) with
    | some length => if bytes.length < length then none else some (bytes.take length)
    | none => some bytes

def statusOf? (line : List UInt8) : Option Nat :=
  let code := ((asciiText line).dropWhile (· != ' ')).drop 1
  (String.ofList (code.takeWhile (· != ' '))).toNat?

def withoutMark (text : String) : String :=
  match text.toList with
  | '\ufeff' :: rest => .ofList rest
  | _ => text

def Reply.ofBytes? (bytes : List UInt8) : Option Reply := do
  let (line, rest) ← splitLine bytes
  let status ← statusOf? line
  let (headers, rest) ← splitHeaders rest
  let body ← bodyOf headers rest
  let text ← String.fromUTF8? ⟨body.toArray⟩
  pure ⟨status, withoutMark text⟩

end GraphqlBindings.Http
