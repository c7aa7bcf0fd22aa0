import Lookout.Url.Basic

/-! Addresses of databases. An address is a URL whose parts are texts, and whose query holds settings of the
    connection. -/

namespace Lookout.Sql.Address

/-- A percent-encoded part that stands for a text. -/
def isText (s : List Char) : Bool := (Text.percentDecoded? s).isSome

/-- A host that begins with a slash is the path of a socket, and has to be a text. -/
def isHost (s : List Char) : Bool := (Text.percentBytes s).head? != some 0x2f || isText s

/-! ### Settings of the connection -/

/-- A name or a value in a query, where a plus sign stands for a space. What is no text reads as one
    replacement character. -/
def queryText (s : List Char) : List Char :=
  (Text.percentDecoded? (s.map fun c => if c == '+' then ' ' else c)).getD ['\uFFFD']

/-- The settings of a query, in order, each with its name. -/
def settings (query : List Char) : List (List Char × List Char) :=
  ((Text.cut (· == '&') query).filter (!·.isEmpty)).map fun s =>
    (queryText (s.takeWhile (· != '=')), queryText ((s.dropWhile (· != '=')).drop 1))

/-- How a connection may be encrypted. -/
def encryptionModes : List String := ["disable", "allow", "prefer", "require", "verify-ca", "verify-full"]

/-- The setting has a value that can be used. A setting of another name takes any value. -/
def isSetting (name value : List Char) : Bool :=
  match String.ofList name with
  | "sslmode" | "ssl-mode" => encryptionModes.contains (String.ofList (value.map Char.toLower))
  | "port" => (Text.unsigned? value).any (· < 65536)
  | "statement-cache-capacity" => (Text.unsigned? value).any (· < 18446744073709551616)
  | "hostaddr" => Url.isIp value
  | _ => true

/-- The database can be reached by this URL. -/
def isUsable (url : Url) : Bool :=
  isText url.user && isText url.password && url.path.all isText && isHost url.host
    && (settings url.query).all fun (name, value) => isSetting name value

/-- The text can be read as an address. -/
def isReadable (s : List Char) : Bool := (Url.ofText? s).any isUsable

end Lookout.Sql.Address
