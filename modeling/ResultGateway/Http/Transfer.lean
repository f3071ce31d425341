-- Requests and replies as the bytes that cross a connection. A request
-- asks the server to end the connection after its reply, so the reply is
-- all that arrives.
import ResultGateway.Http.Message
import ResultGateway.Text.Blank

namespace ResultGateway.Http

/-! ## Writing requests -/

def hostHeader (u : Url) : String :=
  u.host.text ++ match u.port with
    | some port => ":" ++ String.ofList (Text.decimal port)
    | none => ""

def headerLine (name value : String) : String := name ++ ": " ++ value ++ "\r\n"

def optionalHeader (name : String) : Option String → String
  | some value => headerLine name value
  | none => ""

/-- The headers that tell of the body, which a GET has none of. -/
def Request.bodyHeaders (r : Request) : String :=
  match r.method with
  | .get => ""
  | .post => headerLine "Content-Length" (String.ofList (Text.decimal r.body.utf8ByteSize))

def Request.text (r : Request) : String :=
  r.method.name ++ " " ++ r.target ++ " HTTP/1.1\r\n"
    ++ headerLine "Host" (hostHeader r.url) ++ headerLine "Accept" r.accept
    ++ optionalHeader "Content-Type" r.contentType ++ optionalHeader "X-CSRFToken" r.token
    ++ optionalHeader "Cookie" r.cookie ++ optionalHeader "Authorization" r.authorization
    ++ r.bodyHeaders ++ headerLine "Connection" "close" ++ "\r\n" ++ r.body

def Request.bytes (r : Request) : List UInt8 := Text.Utf8.encode r.text.toList

/-! ## Reading replies -/

/-- The bytes of a line, and those behind its end. -/
def splitLine : List UInt8 → Option (List UInt8 × List UInt8)
  | [] => none
  | 13 :: 10 :: rest => some ([], rest)
  | 10 :: rest => some ([], rest)
  | b :: rest => (splitLine rest).map fun parts => (b :: parts.1, parts.2)

theorem splitLine_length {bytes line rest : List UInt8}
    (h : splitLine bytes = some (line, rest)) : rest.length < bytes.length := by
  fun_induction splitLine bytes generalizing line with
  | case1 => simp at h
  | case2 rest =>
    obtain ⟨_, rfl⟩ := Prod.mk.inj (Option.some.inj h)
    simp only [List.length_cons]
    omega
  | case3 rest =>
    obtain ⟨_, rfl⟩ := Prod.mk.inj (Option.some.inj h)
    exact Nat.lt_succ_self _
  | case4 b rest' _ _ ih =>
    obtain ⟨parts, hparts, hpair⟩ := Option.map_eq_some_iff.1 h
    obtain ⟨_, rfl⟩ := Prod.mk.inj hpair
    exact Nat.lt_succ_of_lt (ih hparts)

/-- The lines of a head, up to the empty one, and the bytes behind it. -/
def splitHead (bytes : List UInt8) : Option (List (List UInt8) × List UInt8) :=
  match h : splitLine bytes with
  | none => none
  | some ([], rest) => some ([], rest)
  | some (b :: line, rest) =>
    have := splitLine_length h
    (splitHead rest).map fun parts => ((b :: line) :: parts.1, parts.2)
termination_by bytes.length

def lineText (line : List UInt8) : List Char := Text.Utf8.decodeLossy line

/-- A header line: a name and a value around the first colon. -/
def headerOf (line : List UInt8) : String × String :=
  let cs := lineText line
  (String.ofList (cs.takeWhile (· != ':')),
    String.ofList (Text.trimBy Text.isBlank ((cs.dropWhile (· != ':')).drop 1)))

/-- The status that the first line of a reply gives. -/
def statusOf? (line : List UInt8) : Option Nat :=
  let digits := ((lineText line).dropWhile (· != ' ')).drop 1 |>.takeWhile Text.isDigit
  if digits.length = 3 then some (Text.ofDigits digits) else none

/-- The length of a chunk, as its first line gives it. -/
def chunkLength (line : List UInt8) : Nat :=
  ((lineText line).map Text.hexValue?).takeWhile Option.isSome
    |>.foldl (fun n digit => 16 * n + digit.getD 0) 0

/-- A body that comes in chunks, and how many of its bytes do not arrive. -/
def joinChunks (bytes : List UInt8) : List UInt8 × Nat :=
  match h : splitLine bytes with
  | none => ([], 1)
  | some (line, rest) =>
    let length := chunkLength line
    if length = 0 then ([], 0)
    else if rest.length < length then (rest, length - rest.length)
    else
      have := splitLine_length h
      have : (rest.drop (length + 2)).length ≤ rest.length := by simp
      let later := joinChunks (rest.drop (length + 2))
      (rest.take length ++ later.1, later.2)
termination_by bytes.length

/-- The bytes of a body of an announced length, and how many do not arrive. -/
def takeBody (length : Option Nat) (bytes : List UInt8) : List UInt8 × Nat :=
  match length with
  | none => (bytes, 0)
  | some length => (bytes.take length, length - bytes.length)

/-- The reply that arrives as bytes. -/
def Reply.ofBytes? (bytes : List UInt8) : Option Reply := do
  let (lines, rest) ← splitHead bytes
  let status ← lines.head? >>= statusOf?
  let reply : Reply := ⟨status, (lines.drop 1).map headerOf, [], 0⟩
  let isChunked := (reply.header? "transfer-encoding").any fun coding => coding == "chunked"
  let length := (reply.header? "content-length").map fun value => Text.ofDigits value.toList
  let (body, missing) := if isChunked then joinChunks rest else takeBody length rest
  return { reply with body, missing }

end ResultGateway.Http
