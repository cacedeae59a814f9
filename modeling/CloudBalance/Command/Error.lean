import CloudBalance.Balancer.Error
import CloudBalance.Settings.Error
import CloudBalance.Text.Split

/-!
# How a command fails

The failures that end a run, with the text that the user sees: a message and, below it, the messages
of the failures that led to it.
-/

namespace CloudBalance

inductive CommandError where
  | cloud (cause : CloudError)
  | settings (cause : SettingsError)
  | noToken (name : String)
  | notAuthenticated
  | noWorkingDirectory (cause : FileError)
  deriving DecidableEq, Repr

namespace CommandError

def message : CommandError → String
  | .cloud cause => cause.message
  | .settings _ => "設定ファイルの読み込みに失敗しました"
  | .noToken name => "環境変数 " ++ name ++ " に Cloudflare API トークンを設定してください"
  | .notAuthenticated => "認証されていないプロバイダーがあります"
  | .noWorkingDirectory cause => cause.message

/-- The messages of the failures behind this one, the nearest first. -/
def causes : CommandError → List String
  | .cloud cause => cause.causes
  | .settings cause => cause.message :: cause.causes
  | .noToken _ => ["environment variable not found"]
  | .notAuthenticated | .noWorkingDirectory _ => []

/-- A text whose first line follows `first` and whose other lines follow `other`. -/
def indent (first other text : String) : String :=
  first ++ ("\n" ++ other).intercalate (Text.split '\n' text)

/-- A number, right-aligned in five places. -/
def numbered (n : Nat) : String :=
  let digits := toString n
  String.ofList (List.replicate (5 - digits.length) ' ') ++ digits ++ ": "

/-- The causes on lines of their own, numbered if there are several. -/
def showCauses : List String → String
  | [] => ""
  | [cause] => "\n\nCaused by:\n" ++ indent "    " "    " cause
  | causes =>
    "\n\nCaused by:\n" ++ "\n".intercalate
      (causes.mapIdx fun i cause => indent (numbered i) "       " cause)

/-- What the user sees. -/
def report (e : CommandError) : String :=
  "Error: " ++ e.message ++ showCauses e.causes

end CommandError

end CloudBalance
