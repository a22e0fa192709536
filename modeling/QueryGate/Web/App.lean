import QueryGate.Catalog.Document
import QueryGate.Metrics.Registry
import QueryGate.Pipeline.Service
import QueryGate.Settings

/-!
# The application

The application answers requests about one data source.  What it keeps between requests is the
world of its pipeline and its measurements.

Without a database of its own it shows a small demonstration database, asked by a model that knows
a few questions.
-/

namespace QueryGate.Web

open Text

/-- The version of the application. -/
def version : Text := "0.1.0".toList

/-- An application. -/
structure App where
  environment : Text
  service : Service
  source : Source
  /-- How many lists and objects may stand inside one another in the body of a request. -/
  bodyDepth : Nat
  /-- The name given to a request that brings none. -/
  freshId : Text

/-- What an application keeps between requests. -/
structure State where
  world : World
  metrics : Metrics.Registry

namespace Demo

/-- The schema of the demonstration database. -/
def schema : Text := join ['\n'] [
  "Database: demo".toList,
  [],
  "Tables:".toList,
  [],
  "Table: customers".toList,
  "  - id (INTEGER) PRIMARY KEY".toList,
  "  - name (TEXT) NOT NULL".toList,
  "  - email (TEXT)".toList,
  "  - tier (TEXT)".toList,
  "  - created_at (TIMESTAMP)".toList,
  [],
  "Table: users".toList,
  "  - id (INTEGER) PRIMARY KEY".toList,
  "  - username (TEXT) NOT NULL".toList,
  "  - email (TEXT)".toList,
  "  - password (TEXT)".toList,
  "  - api_key (TEXT)".toList,
  [],
  "Table: orders".toList,
  "  - id (INTEGER) PRIMARY KEY".toList,
  "  - customer_id (INTEGER)".toList,
  "  - amount (DECIMAL)".toList,
  "  - card_number (TEXT)".toList,
  "  - status (TEXT)".toList,
  []]

/-- A customer of the demonstration database. -/
def customer (id : Int) (name tier : String) : Row := [
  ("id".toList, .int id),
  ("name".toList, .str name.toList),
  ("tier".toList, .str tier.toList)]

/-- The demonstration database. -/
def source : Source := .memory {
  schema := schema
  rows := [customer 1 "Alice" "premium", customer 2 "Bob" "basic"]
  name := "demo".toList
  kind := "memory".toList
  delay := .int 0
  failure := none
  schemaFailure := none }

/-- What the demonstration model answers, by a word of the question. -/
def responses : List (String × String) := [
  ("premium", "SELECT name, email FROM customers WHERE tier = 'premium' LIMIT 100"),
  ("customers", "SELECT * FROM customers LIMIT 100"),
  ("users", "SELECT * FROM users LIMIT 100"),
  ("passwords", "SELECT username, password FROM users"),
  ("revenue", "SELECT SUM(amount) FROM orders"),
  ("orders", "SELECT * FROM orders LIMIT 100")]

/-- The demonstration model. -/
def model : Draft.CannedModel where
  responses := .ofList (responses.map fun r => (r.1.toList, r.2.toList))
  default := "SELECT * FROM customers LIMIT 10".toList
  failure := none

end Demo

/-- The room that is left for lists and objects inside one another wherever some are written or
read. -/
structure Room where
  record : Nat
  line : Nat
  body : Nat
  enough : recordDepth ≤ record ∧ recordDepth ≤ line

/-- The application for some settings.  Entries are also reported, except in production. -/
def App.make (s : Settings) (room : Room) (catalog : Catalog) (source : Source)
    (model : Draft.CannedModel) (freshId : Text) : App where
  environment := s.environment
  service := {
    gate := {
      trail := ⟨s.auditWindowDays, !s.isProduction, room.record, room.line⟩
      catalog := catalog
      rules := .standard
      timeout := .float s.executionTimeout
      room := room.enough }
    drafter := ⟨model, catalog, s.rowLimit⟩ }
  source := source
  bodyDepth := room.body
  freshId := freshId

/-- What an application keeps before its first request. -/
def App.start (a : App) (now : Clock) (directory : Audit.Directory) : State where
  world := ⟨now, directory, [], [], []⟩
  metrics := { Metrics.Registry.fresh with
    info := [("environment", a.environment), ("version", version)] }

/-- The source that the settings name: a database file, or else the demonstration database. -/
def sourceFor (s : Settings) (file : Database) : Source :=
  match s.databasePath with
  | some (c :: path) => .ofFile file (c :: path) s.databaseName
  | _ => Demo.source

/-- Whether a path leads to a folder wherever it is followed: there is nothing in it but steps to
the top, up and in place. -/
def isFolderPath (path : Text) : Bool :=
  (splitOn '/' path).all fun step => step.all (· = '.') && decide (step.length ≤ 2)

/-- The catalog that the settings name, given the contents of its file. -/
def catalogFor (s : Settings) (file : Option (List UInt8)) : Except Catalog.LoadError Catalog :=
  match s.catalogPath with
  | some path => if isFolderPath path then .error .folder else Catalog.load file
  | none => .ok .standard

/-- The application for some settings, with the files that they name; a source or model that is
given is used instead of what the settings name. -/
def App.launch (s : Settings) (room : Room) (catalogFile : Option (List UInt8))
    (database : Database) (source : Option Source) (model : Option Draft.CannedModel)
    (freshId : Text) : Except Catalog.LoadError App :=
  (catalogFor s catalogFile).map fun catalog =>
    .make s room catalog (source.getD (sourceFor s database)) (model.getD Demo.model) freshId

end QueryGate.Web
