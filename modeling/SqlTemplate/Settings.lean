import SqlTemplate.Bindings
import SqlTemplate.Parameter
import SqlTemplate.Record
import SqlTemplate.SettingInteger

/-!
# Settings

The settings of connections and of the cache, read from the variables of an environment and of a file, and the
parameters that a connection is opened with.
-/

namespace SqlTemplate

inductive Setting
  | host
  | port
  | user
  | password
  | database
  | charset
  | connectTimeout
  | cacheSize
  deriving DecidableEq

namespace Setting

def all : List Setting := [.host, .port, .user, .password, .database, .charset, .connectTimeout, .cacheSize]

/-- The name of the variable that has the setting's value. -/
def variableName : Setting → String
  | .host => "MYSQL_HOST"
  | .port => "MYSQL_PORT"
  | .user => "MYSQL_USER"
  | .password => "MYSQL_PASSWORD"
  | .database => "MYSQL_DATABASE"
  | .charset => "MYSQL_CHARSET"
  | .connectTimeout => "DB_CONNECT_TIMEOUT"
  | .cacheSize => "TEMPLATE_CACHE_MAX_SIZE"

/-- The parameter of a connection that the setting gives. -/
def parameterName? : Setting → Option String
  | .host => some "host"
  | .port => some "port"
  | .user => some "user"
  | .password => some "password"
  | .database => some "database"
  | .charset => some "charset"
  | .connectTimeout => some "connect_timeout"
  | .cacheSize => none

def default : Setting → Parameter
  | .host => .text "localhost".toList
  | .port => .int 3306
  | .user => .text "root".toList
  | .password => .text []
  | .database => .text "database".toList
  | .charset => .text "utf8mb4".toList
  | .connectTimeout => .int 10
  | .cacheSize => .int 512

def isInteger : Setting → Bool
  | .port | .connectTimeout | .cacheSize => true
  | _ => false

/-- The least value that the setting takes. -/
def least? : Setting → Option Int
  | .connectTimeout => some 1
  | .cacheSize => some 0
  | _ => none

end Setting

/-- A value for each setting. -/
abbrev Settings := Setting → Parameter

/-- What is wrong with the text of a setting. -/
inductive SettingProblem
  | notInteger
  | tooLong
  | tooSmall
  deriving DecidableEq

def SettingProblem.name : SettingProblem → String
  | .notInteger => "int_parsing"
  | .tooLong => "int_parsing_size"
  | .tooSmall => "greater_than_equal"

structure InvalidSettings where
  problems : List (Setting × SettingProblem)

def InvalidSettings.message (e : InvalidSettings) : String :=
  "; ".intercalate (e.problems.map fun (setting, problem) => setting.variableName ++ ": " ++ problem.name)

namespace Settings

def default : Settings := Setting.default

def set (s : Settings) (setting : Setting) (value : Parameter) : Settings :=
  fun other => if other = setting then value else s other

/-- The last value that is not empty of a setting's variable, whose name may be in any case. -/
def valueIn? (bindings : Bindings Text) (setting : Setting) : Option Text :=
  let name := setting.variableName.toList.map Char.toLower
  (bindings.reverse.find? fun b => b.1.map Char.toLower = name && !b.2.isEmpty).map Prod.snd

/-- The value that a text gives to a setting. -/
def read (setting : Setting) (t : Text) : Except SettingProblem Parameter :=
  if !setting.isInteger then .ok (.text t)
  else if SettingInteger.isOverlong t then .error .tooLong
  else match SettingInteger.read? t with
    | none => .error .notInteger
    | some n => if setting.least?.any (n < ·) then .error .tooSmall else .ok (.int n)

/-- The problem with the text of a setting, if any. -/
def problem? (setting : Setting) (t : Option Text) : Option SettingProblem :=
  t.bind fun t => match read setting t with
    | .error p => some p
    | .ok _ => none

/-- The settings that variables give; those of the environment win over those of the file. -/
def ofVariables (environment file : Bindings Text) : Except InvalidSettings Settings :=
  let source (setting : Setting) := (valueIn? environment setting).or (valueIn? file setting)
  let problems := Setting.all.filterMap fun setting => (problem? setting (source setting)).map (setting, ·)
  if problems.isEmpty then
    .ok fun setting =>
      match (source setting).map (read setting) with
      | some (.ok value) => value
      | _ => setting.default
  else .error ⟨problems⟩

/-- The part of a value before white space that a number sign follows. -/
def withoutComment : Text → Text
  | [] => []
  | c :: rest => if Text.isBlank c && rest.head? = some '#' then [] else c :: withoutComment rest

/-- The variables of a file with a line `NAME=value` for each; white space around names and values is left out, and
so is a comment behind a value. -/
def fileVariables (contents : Text) : Bindings Text :=
  let lines := (contents.map fun c => if c = '\r' then '\n' else c).splitOn '\n'
  Bindings.setAll [] <| lines.filterMap fun line =>
    match line.dropWhile (· ≠ '=') with
    | [] => none
    | _ :: value =>
      some (Text.trim Text.isBlank (line.takeWhile (· ≠ '=')),
        Text.trim Text.isBlank (withoutComment (Text.trim Text.isBlank value)))

/-- The parameters of a connection that the settings give. -/
def parameters (s : Settings) : Bindings Parameter :=
  Setting.all.filterMap fun setting => setting.parameterName?.map fun name => (name.toList, s setting)

end Settings

/-- The parameter without which no connection is opened. -/
structure MissingParameter where
  name : String
  deriving DecidableEq

def MissingParameter.message (e : MissingParameter) : String := "MySQL connection requires " ++ e.name

/-- What a connection is opened with. -/
structure Opening where
  parameters : Bindings Parameter

namespace Opening

def value (o : Opening) (name : String) : Parameter := (o.parameters.get? name.toList).getD .null

def record (o : Opening) : Record :=
  .opening (o.value "host").written (o.value "port").written (o.value "database").written

end Opening

/-- The parameters of the settings, some of them overridden; a host, a user and a database are required. -/
def Settings.opening (s : Settings) (overrides : List (Text × Parameter)) : Except MissingParameter Opening :=
  let o : Opening := ⟨s.parameters.setAll overrides⟩
  match ["host", "user", "database"].find? fun name => (o.value name).isBlank with
  | some name => .error ⟨name⟩
  | none => .ok o

end SqlTemplate
