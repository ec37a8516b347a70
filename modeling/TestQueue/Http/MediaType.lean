namespace TestQueue.Http

def isTokenChar (c : Char) : Bool := c.isAlphanum || "!#$%&'*+-.^_`|~".toList.contains c

inductive ParameterPlace where
  | beforeName
  | name
  | beforeValue
  | value
  | quoteOpen
  | quoted
  | quoteClosed
  deriving DecidableEq

namespace ParameterPlace

def isQuotable (c : Char) : Bool := 0x20 ≤ c.toNat && c.toNat < 0x7F

def next? (p : ParameterPlace) (c : Char) : Option ParameterPlace :=
  match p with
  | beforeName => if c = ' ' then some beforeName else if isTokenChar c then some name else none
  | name => if c = '=' then some beforeValue else if isTokenChar c then some name else none
  | beforeValue => if c = '"' then some quoteOpen else if isTokenChar c then some value else none
  | value => if c = ';' then some beforeName else if isTokenChar c then some value else none
  | quoteOpen => if isQuotable c then some quoted else none
  | quoted => if c = '"' then some quoteClosed else if isQuotable c then some quoted else none
  | quoteClosed => if c = ' ' then some quoteClosed else if c = ';' then some beforeName else none

def mayEnd : ParameterPlace → Bool
  | beforeName | beforeValue | value | quoteClosed => true
  | name | quoteOpen | quoted => false

def accepts (text : List Char) : Bool :=
  match text.foldlM next? beforeName with
  | some p => p.mayEnd
  | none => false

end ParameterPlace

structure MediaType where
  kind : List Char
  subtype : List Char
  deriving DecidableEq

namespace MediaType

def ofText? (text : String) : Option MediaType :=
  let s := text.toList
  let kind := s.takeWhile isTokenChar
  match s.dropWhile isTokenChar with
  | '/' :: s =>
    let subtype := s.takeWhile isTokenChar
    let parametersFit := match s.dropWhile isTokenChar with
      | [] => true
      | ';' :: parameters => ParameterPlace.accepts parameters
      | _ => false
    if kind.isEmpty || subtype.isEmpty || !parametersFit then none
    else some ⟨kind.map Char.toLower, subtype.map Char.toLower⟩
  | _ => none

def parts (m : MediaType) : List Char × Option (List Char) :=
  let suffix := (m.subtype.reverse.takeWhile (· ≠ '+')).reverse
  let rest := m.subtype.take (m.subtype.length - suffix.length - 1)
  if rest.isEmpty then (m.subtype, none) else (rest, some suffix)

def isJson (m : MediaType) : Bool :=
  m.kind = "application".toList &&
    (m.parts.1 = "json".toList || m.parts.2 = some "json".toList)

end MediaType

end TestQueue.Http
