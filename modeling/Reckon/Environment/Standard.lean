import Reckon.Environment.Basic

/-!
# The standard environment

Five constants, and the usual functions of one and two numbers.
-/

namespace Reckon

namespace Function

/-- A function of one number. -/
def unary (name : String) (f : Float → Float) (doc : String) : Function :=
  ⟨name, 1, fun
    | [a] => some (.ieee (f a.toFloat))
    | _ => none, doc⟩

/-- A function of two numbers. -/
def binary (name : String) (f : Float → Float → Float) (doc : String) : Function :=
  ⟨name, 2, fun
    | [a, b] => some (.ieee (f a.toFloat b.toFloat))
    | _ => none, doc⟩

end Function

namespace Environment

def standardConstants : List (String × Float) := [
  ("pi", 3.141592653589793),
  ("e", 2.718281828459045),
  ("tau", 6.283185307179586),
  ("inf", Numeric.infinity),
  ("nan", Numeric.nan)]

def standardFunctions : List Function := [
  .unary "sin" Float.sin "正弦",
  .unary "cos" Float.cos "余弦",
  .unary "tan" Float.tan "正接",
  .unary "asin" Float.asin "逆正弦",
  .unary "acos" Float.acos "逆余弦",
  .unary "atan" Float.atan "逆正接",
  .unary "sinh" Float.sinh "双曲線正弦",
  .unary "cosh" Float.cosh "双曲線余弦",
  .unary "tanh" Float.tanh "双曲線正接",
  .unary "sqrt" Float.sqrt "平方根",
  .unary "exp" Float.exp "指数関数",
  .unary "ln" Float.log "自然対数",
  .unary "log10" Float.log10 "常用対数",
  .unary "log2" Float.log2 "2を底とする対数",
  .unary "abs" Float.abs "絶対値",
  .unary "floor" Float.floor "床関数",
  .unary "ceil" Float.ceil "天井関数",
  .unary "round" Numeric.roundEven "最も近い整数（偶数丸め）",
  .unary "sign" Numeric.sign "符号",
  .binary "atan2" Float.atan2 "atan2(y, x) 象限を考慮した逆正接",
  .binary "hypot" Numeric.hypotenuse "hypot(x, y) 斜辺の長さ",
  .binary "pow" Numeric.power "pow(x, y) べき乗",
  .binary "min" Numeric.minimum "min(x, y) 小さい方",
  .binary "max" Numeric.maximum "max(x, y) 大きい方",
  .binary "mod" Numeric.remainder "mod(x, y) 剰余（符号は x に従う）",
  .binary "log" Numeric.logarithm "log(base, x) 任意の底の対数"]

def standardBindings : List Binding :=
  standardConstants.map (fun (name, x) => .constant name (.ieee x)) ++ standardFunctions.map .function

/-- The environment of the standard constants and functions. -/
def standard (isProtected : Bool := false) : Environment := ofBindings standardBindings isProtected

end Environment

end Reckon
