/-! Well-known source types and the output types that stand for them. -/

namespace AppSync.Registry

/-- The scalars that the service adds to the built-in ones. -/
inductive CustomScalar where
  | date
  | time
  | dateTime
  | timestamp
  | email
  | json
  | phone
  | url
  | ipAddress
deriving DecidableEq, Repr

/-- The name of a scalar in a schema. -/
def CustomScalar.name : CustomScalar → String
  | .date => "AWSDate"
  | .time => "AWSTime"
  | .dateTime => "AWSDateTime"
  | .timestamp => "AWSTimestamp"
  | .email => "AWSEmail"
  | .json => "AWSJSON"
  | .phone => "AWSPhone"
  | .url => "AWSURL"
  | .ipAddress => "AWSIPAddress"

/-- Every custom scalar, in the order in which they are listed. -/
def customScalars : List CustomScalar :=
  [.date, .time, .dateTime, .timestamp, .email, .json, .phone, .url, .ipAddress]

/-- The name of the identifier scalar. -/
def identifierName : String := "ID"

/-- Whether a name is that of a custom scalar. -/
def isSupported (name : String) : Bool :=
  customScalars.any fun scalar => scalar.name = name

/-- Qualified names of source types with the scalar that each one becomes. -/
def scalarEntries : List (String × String) := [
  ("System.DateTime", CustomScalar.dateTime.name),
  ("System.DateTimeOffset", CustomScalar.dateTime.name),
  ("datetime.datetime", CustomScalar.dateTime.name),
  ("System.DateOnly", CustomScalar.date.name),
  ("datetime.date", CustomScalar.date.name),
  ("System.TimeOnly", CustomScalar.time.name),
  ("datetime.time", CustomScalar.time.name),
  ("System.Guid", identifierName),
  ("uuid.UUID", identifierName),
  ("System.Text.Json.JsonElement", CustomScalar.json.name),
  ("System.Text.Json.Nodes.JsonNode", CustomScalar.json.name),
  ("Newtonsoft.Json.Linq.JObject", CustomScalar.json.name),
  ("Newtonsoft.Json.Linq.JToken", CustomScalar.json.name),
  ("typing.Any", CustomScalar.json.name),
  ("System.Net.Mail.MailAddress", CustomScalar.email.name),
  ("email.headerregistry.Address", CustomScalar.email.name),
  ("pydantic.EmailStr", CustomScalar.email.name),
  ("System.Uri", CustomScalar.url.name),
  ("pydantic.AnyUrl", CustomScalar.url.name),
  ("pydantic.HttpUrl", CustomScalar.url.name),
  ("System.Net.IPAddress", CustomScalar.ipAddress.name),
  ("ipaddress.IPv4Address", CustomScalar.ipAddress.name),
  ("ipaddress.IPv6Address", CustomScalar.ipAddress.name)]

/-- The scalar registered for a qualified source type name. -/
def scalarOf? (name : String) : Option String :=
  (scalarEntries.find? fun entry => entry.1 = name).map (·.2)

/-- The qualified names registered for a scalar, in order of code points. -/
def sourcesOf (scalar : String) : List String :=
  ((scalarEntries.filter fun entry => entry.2 = scalar).map (·.1)).mergeSort (· ≤ ·)

/-- Names of source types, qualified or not, that become built-in scalars. -/
def primitiveEntries : List (String × String) := [
  ("System.String", "String"),
  ("string", "String"),
  ("System.Char", "String"),
  ("char", "String"),
  ("builtins.str", "String"),
  ("str", "String"),
  ("System.Int16", "Int"),
  ("short", "Int"),
  ("System.Int32", "Int"),
  ("int", "Int"),
  ("System.Int64", "Int"),
  ("long", "Int"),
  ("System.Byte", "Int"),
  ("byte", "Int"),
  ("builtins.int", "Int"),
  ("System.Single", "Float"),
  ("float", "Float"),
  ("System.Double", "Float"),
  ("double", "Float"),
  ("System.Decimal", "Float"),
  ("decimal", "Float"),
  ("builtins.float", "Float"),
  ("decimal.Decimal", "Float"),
  ("Decimal", "Float"),
  ("System.Boolean", "Boolean"),
  ("bool", "Boolean"),
  ("builtins.bool", "Boolean"),
  ("System.Guid", "ID"),
  ("Guid", "ID"),
  ("uuid.UUID", "ID"),
  ("UUID", "ID")]

/-- The built-in scalar for a name. -/
def primitiveOf? (name : String) : Option String :=
  (primitiveEntries.find? fun entry => entry.1 = name).map (·.2)

/-- Types that are never null unless a nullable wrapper holds them. -/
def valueTypeNames : List String := [
  "System.Int16",
  "System.Int32",
  "System.Int64",
  "System.Byte",
  "System.Char",
  "System.Single",
  "System.Double",
  "System.Decimal",
  "System.Boolean",
  "System.Guid",
  "System.DateTime",
  "System.DateTimeOffset",
  "System.DateOnly",
  "System.TimeOnly",
  "short",
  "int",
  "long",
  "byte",
  "char",
  "float",
  "double",
  "decimal",
  "bool",
  "builtins.str",
  "builtins.int",
  "builtins.float",
  "builtins.bool",
  "builtins.list",
  "builtins.tuple",
  "builtins.set",
  "builtins.frozenset",
  "decimal.Decimal",
  "uuid.UUID",
  "datetime.datetime",
  "datetime.date",
  "datetime.time"]

/-- Wrappers of results that arrive later. -/
def asyncWrapperNames : List String := [
  "System.Threading.Tasks.Task",
  "System.Threading.Tasks.ValueTask",
  "typing.Awaitable",
  "typing.Coroutine",
  "collections.abc.Awaitable",
  "collections.abc.Coroutine",
  "asyncio.Future",
  "asyncio.Task"]

/-- Names of the type without values. -/
def voidNames : List String :=
  ["void", "System.Void", "None", "NoneType", "builtins.NoneType"]

end AppSync.Registry
