/-!
# Help texts

The guide, the texts on single topics, and the one-line descriptions of the commands.
-/

namespace Reckon.Help

def ruler : String := String.ofList (List.replicate 30 '=')

def guide : String := "\n".intercalate [
  "\n" ++ ruler,
  "【入力形式のガイド】",
  "  計算 : 1 + 2 * 3",
  "  代入 : x = 5",
  "  呼出 : atan2(1, 2)",
  "  並び : x = 2; y = x ^ 10; y / 3",
  "",
  "演算子の優先順位は ( ) > 単項 + - > ^ > * / > + - です。",
  "^ は右結合、それ以外は左結合です。 例：2^3^2 = 512",
  "parse <式> で括弧の付き方を確認できます。",
  "",
  "vars で変数の一覧、help functions で組み込み関数の一覧を表示します。",
  "名前はTabキーで文字入力補完機能が使えます。",
  "- 終了するには 'exit' または 'quit' と入力してください。",
  ruler ++ "\n",
  "コマンド一覧:",
  " vars  parse  set  reset  help  exit"]

def setTopic : String := "\n".intercalate [
  "設定を変更するコマンド",
  "設定例: arith> set Echo off",
  "      : arith> set MaxDepth 100",
  "設定項目: Echo Log MaxDepth ProtectBuiltins Style"]

/-- The texts on single topics. -/
def topics : List (String × String) := [
  ("set", setTopic),
  ("constants", "組み込み定数: pi e tau inf nan"),
  ("errors", "0での割り算はエラーになりません。 1/0 = inf, 0/0 = nan")]

/-- The descriptions of the commands; one has none. -/
def commands : List (String × Option String) := [
  ("EOF", none),
  ("exit", some "exit : 終了する"),
  ("help", some ("\n        help と打つとガイドとコマンド一覧、help [コマンド名] で詳細を表示します。"
    ++ "\n        help functions で組み込み関数の一覧を表示します。\n        ")),
  ("parse", some "parse <式> : 優先順位と結合性に従って括弧を付けて表示する"),
  ("quit", some "quit : 終了する"),
  ("reset", some "reset : 変数をすべて消して環境を初期化する"),
  ("set", some "set <設定項目> <値> : 設定を変更する"),
  ("vars", some "vars [all] : 変数の一覧（all で組み込みも表示）")]

/-- Names under a heading, underlined, with a blank line after them. -/
def topicList (heading : String) (names : List String) : String :=
  let underline := String.ofList (List.replicate heading.length '=')
  heading ++ "\n" ++ underline ++ "\n" ++ "  ".intercalate names ++ "\n\n"

/-- All commands, those with a description first. -/
def overview : String :=
  "\n" ++ topicList "実行可能なコマンド一覧:" ((commands.filter (·.2.isSome)).map (·.1))
    ++ topicList "ヘルプ未作成のコマンド:" ((commands.filter (·.2.isNone)).map (·.1))

/-- The description of a command. -/
def describe (name : String) : String :=
  match commands.lookup name with
  | some (some d) => d ++ "\n"
  | _ => "*** No help on " ++ name ++ "\n"

end Reckon.Help
