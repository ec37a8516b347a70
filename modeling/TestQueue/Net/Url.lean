import TestQueue.Net.Host

/-!
URLs in their normal form: lower case schemes, no default ports, no dot segments, and escapes where
a part needs them. `Url.resolve` reads a text against a base as a link in a document is read.
-/

namespace TestQueue.Net

structure Authority where
  userinfo : List Char
  host : Host
  port : Option UInt16
  deriving DecidableEq

inductive UrlPath where
  | rootless (text : List Char)
  | segments (list : List (List Char))
  deriving DecidableEq

structure Url where
  scheme : List Char
  authority : Option Authority
  path : UrlPath
  query : Option (List Char)
  fragment : Option (List Char)
  deriving DecidableEq

namespace UrlPath

def text : UrlPath → List Char
  | rootless t => t
  | segments list => list.flatMap ('/' :: ·)

end UrlPath

namespace Url

def isFile (scheme : List Char) : Bool := scheme = "file".toList

def defaultPort? (scheme : List Char) : Option UInt16 :=
  match String.ofList scheme with
  | "http" | "ws" => some 80
  | "https" | "wss" => some 443
  | "ftp" => some 21
  | _ => none

def isSpecial (scheme : List Char) : Bool := isFile scheme || (defaultPort? scheme).isSome

def isSchemeChar (c : Char) : Bool := c.isAlphanum || c = '+' || c = '-' || c = '.'

def scheme? (s : List Char) : Option (List Char × List Char) :=
  match s.head?, s.dropWhile isSchemeChar with
  | some c, ':' :: rest =>
    if c.isAlpha then some ((s.takeWhile isSchemeChar).map Char.toLower, rest) else none
  | _, _ => none

def inQuery (scheme : List Char) : List Char :=
  " \"#<>".toList ++ if isSpecial scheme then ['\''] else []

def inFragment : List Char := " \"<>`".toList

def inPath : List Char := inFragment ++ "#?\x7b\x7d".toList

def inUserinfo : List Char := inPath ++ "/:;=@[\\]^|".toList

def isSlash (special : Bool) (c : Char) : Bool := c = '/' || (special && c = '\\')

def plainDots : List Char → List Char
  | '%' :: '2' :: 'e' :: rest => '.' :: plainDots rest
  | '%' :: '2' :: 'E' :: rest => '.' :: plainDots rest
  | c :: rest => c :: plainDots rest
  | [] => []

def isDriveLetter : List Char → Bool
  | [c, d] => c.isAlpha && (d = ':' || d = '|')
  | _ => false

/-- A drive at the start of a file's path is written with a colon, and what follows it is a segment
of its own. -/
def drive? : List Char → Option (List (List Char))
  | [c, d] => if isDriveLetter [c, d] then some [[c, ':']] else none
  | c :: ':' :: rest => if c.isAlpha then some [[c, ':'], Percent.encode inPath rest] else none
  | _ => none

def parent (path : List (List Char)) : List (List Char) :=
  if path.getLast?.any isDriveLetter then path else path.dropLast

def descend (file : Bool) (path : List (List Char)) (segment : List Char) : List (List Char) :=
  match if file && path.isEmpty then drive? segment else none, plainDots segment with
  | some drive, _ => drive
  | none, ['.'] => path
  | none, ['.', '.'] => parent path
  | none, _ => path ++ [Percent.encode inPath segment]

def arrive (file : Bool) (path : List (List Char)) (segment : List Char) : List (List Char) :=
  match if file && path.isEmpty then drive? segment else none, plainDots segment with
  | some drive, _ => drive
  | none, ['.'] => path ++ [[]]
  | none, ['.', '.'] => parent path ++ [[]]
  | none, _ => path ++ [Percent.encode inPath segment]

def follow (file : Bool) (path segments : List (List Char)) : List (List Char) :=
  arrive file (segments.dropLast.foldl (descend file) path) (segments.getLast?.getD [])

def namesDrive (path : List (List Char)) : List (List Char) → Bool
  | [] => false
  | segment :: rest =>
    if path.isEmpty && (drive? segment).isSome then isDriveLetter segment
    else namesDrive (descend true path segment) rest

def ofFilePath (path : List (List Char)) : List (List Char) :=
  match path.dropWhile List.isEmpty with
  | [] => [[]]
  | path => path

def pathAfter (scheme : List Char) (s : List Char) : List (List Char) :=
  let slash := isSlash (isSpecial scheme)
  match s with
  | [] => if isSpecial scheme then [[]] else []
  | c :: rest =>
    let path := follow (isFile scheme) [] (Text.splitAt slash (if slash c then rest else s))
    if isFile scheme then ofFilePath path else path

def hostAndPort (bracketed : Bool) : List Char → List Char × Option (List Char)
  | [] => ([], none)
  | c :: cs =>
    if c = ':' && !bracketed then ([], some cs)
    else
      let (host, port) := hostAndPort (c = '[' || (bracketed && c ≠ ']')) cs
      (c :: host, port)

def port? (scheme : List Char) : Option (List Char) → Except UrlError (Option UInt16)
  | none => .ok none
  | some [] => .ok none
  | some digits =>
    match AddressReader.number? UInt16.size digits with
    | some (n, []) => .ok (if defaultPort? scheme = some n.toUInt16 then none else some n.toUInt16)
    | _ => .error .badPort

def userinfo (s : List Char) : List Char :=
  let name := Percent.encode inUserinfo (s.takeWhile (· ≠ ':'))
  match s.dropWhile (· ≠ ':') with
  | _ :: c :: rest => name ++ ':' :: Percent.encode inUserinfo (c :: rest)
  | _ => name

def readAuthority (scheme s : List Char) : Except UrlError (Authority × List Char) := do
  let address := (s.reverse.takeWhile (· ≠ '@')).reverse
  let user := userinfo (s.take (s.length - address.length - 1))
  let (hostText, portText) := hostAndPort false address
  let host ←
    if isSpecial scheme then if hostText.isEmpty then .error .emptyHost else Host.ofDomain hostText
    else Host.ofPlain hostText
  if host.isEmpty && (portText.isSome || !user.isEmpty) then .error .emptyHost
  else
    let port ← port? scheme (portText.map (·.takeWhile (· ≠ '\\')))
    .ok (⟨user, host, port⟩, (portText.getD []).dropWhile (· ≠ '\\'))

def fileHost (s : List Char) : Except UrlError Host :=
  if s.isEmpty || isDriveLetter s then .ok (.named [])
  else do
    let host ← Host.ofDomain s
    .ok (if host = .named "localhost".toList then .named [] else host)

structure Parts where
  body : List Char
  query : Option (List Char)
  fragment : Option (List Char)

def Parts.of (s : List Char) : Parts :=
  let front := s.takeWhile (· ≠ '#')
  let fragment := (s.dropWhile (· ≠ '#')).tail?
  let body := front.takeWhile (· ≠ '?')
  ⟨body, (front.dropWhile (· ≠ '?')).tail?, fragment⟩

def Parts.queryText (p : Parts) (scheme : List Char) : Option (List Char) :=
  p.query.map (Percent.encode (inQuery scheme))

def Parts.fragmentText (p : Parts) : Option (List Char) :=
  p.fragment.map (Percent.encode inFragment)

/-- A file from the text that follows the two slashes. Without a host the slash behind it starts a
segment too, and the host goes where the path names a drive. -/
def fileAt (p : Parts) (s : List Char) : Except UrlError Url := do
  let scheme := "file".toList
  let slash := isSlash true
  let name := s.takeWhile (!slash ·)
  let rest := s.dropWhile (!slash ·)
  let host ← fileHost name
  let segments := Text.splitAt slash
    (if isDriveLetter name then s else if host.isEmpty then rest else rest.drop 1)
  let host := if namesDrive [] segments then .named [] else host
  .ok ⟨scheme, some ⟨[], host, none⟩, .segments (ofFilePath (follow true [] segments)),
    p.queryText scheme, p.fragmentText⟩

def withAuthority (scheme : List Char) (p : Parts) (s : List Char) : Except UrlError Url := do
  if isFile scheme then fileAt p s
  else
    let isEnd := isSlash (isSpecial scheme)
    let name := s.takeWhile (!isEnd ·)
    let rest := s.dropWhile (!isEnd ·)
    let isWhole := rest.isEmpty && p.query.isNone && p.fragment.isNone
    if name = ['@'] && !isWhole then .error .emptyHost
    else
      let (authority, beyond) ← readAuthority scheme name
      .ok ⟨scheme, some authority, .segments (pathAfter scheme (beyond ++ rest)),
        p.queryText scheme, p.fragmentText⟩

def absolute (scheme : List Char) (p : Parts) : Except UrlError Url :=
  let slash := isSlash (isSpecial scheme)
  if isFile scheme then
    match p.body with
    | a :: b :: rest =>
      if slash a && slash b then withAuthority scheme p rest
      else .ok ⟨scheme, some ⟨[], .named [], none⟩, .segments (pathAfter scheme p.body),
        p.queryText scheme, p.fragmentText⟩
    | s => .ok ⟨scheme, some ⟨[], .named [], none⟩, .segments (pathAfter scheme s),
        p.queryText scheme, p.fragmentText⟩
  else if isSpecial scheme then withAuthority scheme p (p.body.dropWhile slash)
  else
    match p.body with
    | '/' :: '/' :: rest => withAuthority scheme p rest
    | '/' :: rest => .ok ⟨scheme, none, .segments (pathAfter scheme ('/' :: rest)),
        p.queryText scheme, p.fragmentText⟩
    | s => .ok ⟨scheme, none, .rootless (Percent.encode [] s), p.queryText scheme, p.fragmentText⟩

def relative (base : Url) (list : List (List Char)) (p : Parts) : Except UrlError Url :=
  let special := isSpecial base.scheme
  let file := isFile base.scheme
  let slash := isSlash special
  let located (list : List (List Char)) : Url :=
    { base with
      path := .segments (if file then ofFilePath list else list)
      query := p.queryText base.scheme
      fragment := p.fragmentText }
  match p.body with
  | [] =>
    .ok { base with
      query := if p.query.isSome then p.queryText base.scheme else base.query
      fragment := p.fragmentText }
  | a :: rest =>
    match slash a, rest with
    | true, b :: rest' =>
      if slash b then
        withAuthority base.scheme p
          (if special && !file then rest'.dropWhile slash else rest')
      else .ok (located (follow file [] (Text.splitAt slash rest)))
    | true, [] => .ok (located [[]])
    | false, _ => .ok (located (follow file list.dropLast (Text.splitAt slash (a :: rest))))

def isOuterBlank (c : Char) : Bool := c.toNat ≤ 0x20

def isLineBreak (c : Char) : Bool := c = '\t' || c = '\n' || c = '\r'

def cleaned (text : String) : List Char :=
  let s := text.toList.dropWhile isOuterBlank
  (s.reverse.dropWhile isOuterBlank).reverse.filter (!isLineBreak ·)

def onBase (base : Url) (s : List Char) : Except UrlError Url :=
  match base.path with
  | .segments list => relative base list (.of s)
  | .rootless _ =>
    match s with
    | '#' :: fragment => .ok { base with fragment := some (Percent.encode inFragment fragment) }
    | _ => .error .relativeToRootless

def resolve (base : Option Url) (text : String) : Except UrlError Url :=
  let s := cleaned text
  match scheme? s, base with
  | some (scheme, rest), some b =>
    if isSpecial scheme && b.scheme = scheme && (rest.takeWhile (isSlash true)).length < 2 then
      b.onBase rest
    else absolute scheme (.of rest)
  | some (scheme, rest), none => absolute scheme (.of rest)
  | none, some b => b.onBase s
  | none, none => .error .relative

def parse (text : String) : Except UrlError Url := resolve none text

def join (base : Url) (text : String) : Except UrlError Url := resolve (some base) text

def authorityText (u : Url) : List Char :=
  match u.authority with
  | some a =>
    "//".toList ++ (if a.userinfo.isEmpty then [] else a.userinfo ++ ['@']) ++ a.host.text ++
      match a.port with
      | some n => ':' :: (toString n.toNat).toList
      | none => []
  | none =>
    match u.path with
    | .segments ([] :: _ :: _) => "/.".toList
    | _ => []

def target (u : Url) : List Char :=
  u.path.text ++
    match u.query with
    | some q => '?' :: q
    | none => []

def chars (u : Url) : List Char :=
  u.scheme ++ ':' :: u.authorityText ++ u.target ++
    match u.fragment with
    | some f => '#' :: f
    | none => []

def toText (u : Url) : String := String.ofList u.chars

def folder (scheme : List Char) (list : List (List Char)) : List (List Char) :=
  if list.getLast? = some [] then list
  else if isFile scheme then ofFilePath (follow true [] (list ++ [[]]))
  else list ++ [[]]

def asFolder (u : Url) : Url :=
  match u.path with
  | .rootless [] => { u with path := .rootless "%2F".toList }
  | .rootless t => { u with path := .rootless (if t.getLast? = some '/' then t else t ++ ['/']) }
  | .segments list => { u with path := .segments (folder u.scheme list) }

end Url

end TestQueue.Net
