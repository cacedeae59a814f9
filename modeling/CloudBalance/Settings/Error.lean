import CloudBalance.Files.Error

/-!
# Faults in the settings

Why there are no settings, or why they cannot be used.
-/

namespace CloudBalance

/-- What is wrong with a document that can be read. -/
inductive SettingsFault where
  | noCompute
  | noProviderName (kind : String)
  | noZones
  | noValue (key : String)
  | notAnInteger (key : String)
  | outOfRange (key : String) (value : Int)
  | noAttempts
  deriving DecidableEq, Repr

inductive SettingsError where
  | directoryNotFound
  | fileNotFound
  | notADocument
  | invalid (fault : SettingsFault)
  | unknownProvider (kind name : String)
  | unreadable (path : String) (cause : FileError)
  | files (cause : FileError)
  deriving DecidableEq, Repr

def SettingsFault.message : SettingsFault → String
  | .noCompute => "compute ノードが必要です"
  | .noProviderName kind => kind ++ " にはプロバイダー名が必要です"
  | .noZones => "compute \"sakura\" には zone が1つ以上必要です"
  | .noValue key => key ++ " が必要です"
  | .notAnInteger key => key ++ " には整数が必要です"
  | .outOfRange key value => key ++ " の値が範囲外です: " ++ toString value
  | .noAttempts => "resolver の attempts は1以上にしてください"

namespace SettingsError

/-- What the reader of documents says of a text that is none. -/
def notADocumentText : String := "Failed to parse KDL document"

def message : SettingsError → String
  | .directoryNotFound => "設定ディレクトリが見つかりません"
  | .fileNotFound =>
    "\n".intercalate
      ["設定ファイルが見つかりません。以下の場所を確認してください:",
        "- カレントディレクトリ: nimbus.local.kdl, .nimbus.local.kdl, nimbus.kdl, .nimbus.kdl",
        "- ./.nimbus/ ディレクトリ",
        "- ~/.config/nimbus/nimbus.kdl",
        "または NIMBUS_CONFIG_PATH 環境変数で直接指定できます"]
  | .notADocument => "KDL パースエラー: " ++ notADocumentText
  | .invalid fault => "不正な設定: " ++ fault.message
  | .unknownProvider kind name => "未対応のプロバイダー: " ++ kind ++ " \"" ++ name ++ "\""
  | .unreadable path cause => "IO エラー: " ++ path ++ "\n理由: " ++ cause.message
  | .files cause => "IO エラー: " ++ cause.message

/-- The messages of the faults behind this one, the nearest first. -/
def causes : SettingsError → List String
  | .notADocument => [notADocumentText]
  | .unreadable _ cause | .files cause => [cause.message]
  | _ => []

end SettingsError

end CloudBalance
