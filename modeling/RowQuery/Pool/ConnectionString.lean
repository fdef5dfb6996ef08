import RowQuery.Pool.Address
import RowQuery.Text.Utf8
import RowQuery.Unicode.Blank

/-!
Connection strings: addresses with credentials, hosts, a database and options, or lists of keywords
and values.
-/

namespace RowQuery.Pool

open Text Unicode

/-- One thing that a connection string sets. -/
inductive Setting where
  | option (key value : String)
  /-- A password given in an address, which need not be text. -/
  | password (bytes : List UInt8)
  /-- A socket's path given in an address, which need not be text. -/
  | socket (path : List UInt8)
  deriving DecidableEq, Repr

namespace Setting

/-- Whether a value can be given to the option of a key. -/
def isAccepted (key : String) (value : List Char) : Bool :=
  let oneOf (words : List String) : Bool := words.any fun word => word.toList = value
  match key with
  | "user" | "password" | "dbname" | "options" | "application_name" | "host" => true
  | "sslmode" | "channel_binding" => oneOf ["disable", "prefer", "require"]
  | "sslnegotiation" => oneOf ["postgres", "direct"]
  | "target_session_attrs" => oneOf ["any", "read-write", "read-only"]
  | "load_balance_hosts" => oneOf ["disable", "random"]
  | "hostaddr" => (partsBetween ',' value).all isNetworkAddress
  | "port" =>
    (partsBetween ',' value).all fun port => port = [] || (naturalBelow? 0x10000 port).isSome
  | "connect_timeout" | "tcp_user_timeout" | "keepalives_idle" | "keepalives_interval" =>
    (integerBelow? 0x8000000000000000 value).isSome
  | "keepalives" => (naturalBelow? 0x10000000000000000 value).isSome
  | "keepalives_retries" => (naturalBelow? 0x100000000 value).isSome
  | _ => false

/-- The setting of an option, if the key is known and the value suits it. -/
def ofOption? (key value : List Char) : Option Setting :=
  if isAccepted (String.ofList key) value then
    some (option (String.ofList key) (String.ofList value))
  else none

end Setting

namespace Keywords

/-- Reads a bare value up to white space; a backslash takes the next character as it is. -/
def bareValue : List Char → List Char × List Char
  | [] => ([], [])
  -- A backslash at the end has nothing to take.
  | ['\\'] => ([], [])
  | '\\' :: char :: rest =>
    let (value, rest) := bareValue rest
    (char :: value, rest)
  | char :: rest =>
    if isBlank char then ([], char :: rest)
    else
      let (value, rest) := bareValue rest
      (char :: value, rest)

/-- Reads a value up to its closing quote; a backslash takes the next character as it is. -/
def quotedValue? : List Char → Option (List Char × List Char)
  | [] => none
  | '\'' :: rest => some ([], rest)
  | ['\\'] => none
  | '\\' :: char :: rest => (quotedValue? rest).map fun read => (char :: read.1, read.2)
  | char :: rest => (quotedValue? rest).map fun read => (char :: read.1, read.2)

/-- Reads a value; a bare one is not empty. -/
def value? : List Char → Option (List Char × List Char)
  | '\'' :: rest => quotedValue? rest
  | text =>
    let read := bareValue text
    if read.1 = [] then none else some read

/-- Reads at most the given number of settings. A missing keyword ends the list. -/
def settings? : Nat → List Char → Option (List Setting)
  | 0, _ => none
  | most + 1, text =>
    let text := dropBlank text
    -- Blanks may stand on both sides of the equals sign.
    let isKeyword (char : Char) : Bool := !isBlank char && char != '='
    let key := text.takeWhile isKeyword
    if key = [] then some []
    else
      match dropBlank (text.dropWhile isKeyword) with
      | '=' :: rest => do
        let (value, rest) ← value? (dropBlank rest)
        let setting ← Setting.ofOption? key value
        let settings ← settings? most rest
        some (setting :: settings)
      | _ => none

end Keywords

namespace Address

/-- Replaces percent signs with two hexadecimal digits by the byte they stand for. -/
def percentDecoded : List UInt8 → List UInt8
  -- A percent sign without two digits behind it stands for itself.
  | 37 :: high :: low :: rest =>
    match hexValue? (Char.ofNat high.toNat), hexValue? (Char.ofNat low.toNat) with
    | some high, some low => UInt8.ofNat (16 * high + low) :: percentDecoded rest
    | _, _ => 37 :: percentDecoded (high :: low :: rest)
  | byte :: rest => byte :: percentDecoded rest
  | [] => []

/-- The bytes of a part of an address. -/
def decodedBytes (part : List Char) : List UInt8 :=
  percentDecoded (textBytes (String.ofList part))

/-- The text of a part of an address, if it is one. -/
def decoded? (part : List Char) : Option (List Char) :=
  (textOfBytes? (decodedBytes part)).map String.toList

/-- What stands before a character, and what stands from it on, if it occurs. -/
def splitBefore? (isEnd : Char → Bool) (text : List Char) : Option (List Char × List Char) :=
  if text.any isEnd then some (text.takeWhile (!isEnd ·), text.dropWhile (!isEnd ·)) else none

/-- What stands before a character, or all, and what stands from it on. -/
def splitBefore (isEnd : Char → Bool) (text : List Char) : List Char × List Char :=
  (text.takeWhile (!isEnd ·), text.dropWhile (!isEnd ·))

/-- The setting of a host: a path if it starts with a slash, and a name otherwise. -/
def host? (part : List Char) : Option Setting :=
  let bytes := decodedBytes part
  -- The slash may be written with a percent sign, so it is looked for among the bytes.
  if bytes.head? = some 47 then some (.socket bytes)
  else do
    let name ← decoded? part
    Setting.ofOption? "host".toList name

/-- What stands before the first colon, and what stands after it if there is one. -/
def splitAtColon (text : List Char) : List Char × Option (List Char) :=
  (text.takeWhile (· ≠ ':'), (text.dropWhile (· ≠ ':')).tail?)

/-- A host and its port; brackets may enclose a host that holds colons. -/
def hostAndPort? (part : List Char) : Option (List Char × Option (List Char)) :=
  match part with
  | '[' :: inside => do
    let (host, rest) ← splitBefore? (· = ']') inside
    match rest.tail with
    | [] => some (host, none)
    | ':' :: port => some (host, some port)
    | _ => none
  | plain => some (splitAtColon plain)

/-- The settings of one host. -/
def hostSettings? (part : List Char) : Option (List Setting) := do
  let (host, port) ← hostAndPort? part
  let host ← host? host
  -- Every host has a port of its own, if only the usual one.
  let port ← decoded? (port.getD "5432".toList)
  let port ← Setting.ofOption? "port".toList port
  some [host, port]

/-- The settings of the hosts, which commas separate. -/
def hosts? (part : List Char) : Option (List Setting) := do
  if part = [] then some []
  else
    let settings ← (partsBetween ',' part).mapM hostSettings?
    some settings.flatten

/-- The settings of user and password. -/
def credentials? (part : List Char) : Option (List Setting) := do
  let (user, password) := splitAtColon part
  let user ← decoded? user
  let user ← Setting.ofOption? "user".toList user
  some (user :: password.toList.map fun password => .password (decodedBytes password))

/-- The setting of the database. -/
def database? (part : List Char) : Option (List Setting) := do
  if part = [] then some []
  else
    let name ← decoded? part
    let setting ← Setting.ofOption? "dbname".toList name
    some [setting]

/-- The setting of one option. -/
def option? (key value : List Char) : Option Setting := do
  let key ← decoded? key
  if key = "host".toList then host? value
  else
    let value ← decoded? value
    Setting.ofOption? key value

/-- Reads at most the given number of options, each ended by an ampersand or by the end. -/
def options? : Nat → List Char → Option (List Setting)
  | 0, _ => none
  | _ + 1, [] => some []
  | most + 1, text => do
    let (key, rest) ← splitBefore? (· = '=') text
    let (value, rest) := splitBefore (· = '&') rest.tail
    let setting ← option? key value
    let settings ← options? most rest.tail
    some (setting :: settings)

/-- The settings of an address without its scheme. -/
def settings? (text : List Char) : Option (List Setting) := do
  -- The first at sign ends the credentials, wherever in the address it stands.
  let (credentials, text) ←
    match splitBefore? (· = '@') text with
    | some (part, rest) => (credentials? part).map fun settings => (settings, rest.tail)
    | none => some ([], text)
  let (hosts, text) := splitBefore (fun char => char = '/' || char = '?') text
  let hosts ← hosts? hosts
  let (database, text) :=
    match text with
    | '/' :: path => splitBefore (· = '?') path
    | rest => ([], rest)
  let database ← database? database
  let options ← options? (text.length + 1) text.tail
  some (credentials ++ hosts ++ database ++ options)

end Address

/-- The text after one of the schemes of addresses. -/
def afterScheme? (text : List Char) : Option (List Char) :=
  ["postgres://".toList, "postgresql://".toList].findSome? fun scheme =>
    if scheme.isPrefixOf text then some (text.drop scheme.length) else none

/-- Reads a connection string of either form. -/
def settings? (text : String) : Option (List Setting) :=
  match afterScheme? text.toList with
  | some address => Address.settings? address
  | none => Keywords.settings? (text.toList.length + 1) text.toList

end RowQuery.Pool
