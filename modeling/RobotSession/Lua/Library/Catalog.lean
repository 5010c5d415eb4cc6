import RobotSession.Lua.Library.Coroutines
import RobotSession.Lua.Library.Math
import RobotSession.Lua.Library.Packages
import RobotSession.Lua.Library.Packing
import RobotSession.Lua.Library.System
import RobotSession.Lua.Library.Tables
import RobotSession.Lua.Library.Unicode

/-!
# The built-in functions

`Catalog.libraries` lists the functions that scripts find by their names.
`Native.call` is the work of each of them.
-/

namespace RobotSession.Lua

namespace Catalog

/-- The global functions. -/
def globals : List (String × Native) :=
  [("assert", .assert), ("collectgarbage", .collectgarbage), ("dofile", .dofile),
   ("error", .error), ("getmetatable", .getmetatable), ("ipairs", .ipairs), ("load", .load),
   ("loadfile", .loadfile), ("next", .next), ("pairs", .pairs), ("pcall", .pcall),
   ("print", .print), ("rawequal", .rawequal), ("rawget", .rawget), ("rawlen", .rawlen),
   ("rawset", .rawset), ("require", .require), ("select", .select),
   ("setmetatable", .setmetatable), ("tonumber", .tonumber), ("tostring", .tostring),
   ("type", .type), ("warn", .warn), ("xpcall", .xpcall)]

def coroutine : List (String × Native) :=
  [("close", .coClose), ("create", .coCreate), ("isyieldable", .coIsYieldable),
   ("resume", .coResume), ("running", .coRunning), ("status", .coStatus),
   ("wrap", .coWrap), ("yield", .coYield)]

def string : List (String × Native) :=
  [("byte", .strByte), ("char", .strChar), ("dump", .strDump), ("find", .strFind),
   ("format", .strFormat), ("gmatch", .strGmatch), ("gsub", .strGsub), ("len", .strLen),
   ("lower", .strLower), ("match", .strMatch), ("pack", .strPack),
   ("packsize", .strPackSize), ("rep", .strRep), ("reverse", .strReverse), ("sub", .strSub),
   ("unpack", .strUnpack), ("upper", .strUpper)]

/-- What the string metatable offers besides the string library. -/
def stringArithmetic : List (String × Native) :=
  [("__add", .textArith .add), ("__sub", .textArith .sub), ("__mul", .textArith .mul),
   ("__mod", .textArith .mod), ("__pow", .textArith .pow), ("__div", .textArith .div),
   ("__idiv", .textArith .idiv), ("__unm", .textArith .unm)]

def table : List (String × Native) :=
  [("concat", .tabConcat), ("insert", .tabInsert), ("move", .tabMove), ("pack", .tabPack),
   ("remove", .tabRemove), ("sort", .tabSort), ("unpack", .tabUnpack)]

def math : List (String × Native) :=
  [("abs", .mathAbs), ("acos", .mathAcos), ("asin", .mathAsin), ("atan", .mathAtan),
   ("ceil", .mathCeil), ("cos", .mathCos), ("deg", .mathDeg), ("exp", .mathExp),
   ("floor", .mathFloor), ("fmod", .mathFmod), ("log", .mathLog), ("max", .mathMax),
   ("min", .mathMin), ("modf", .mathModf), ("rad", .mathRad), ("random", .mathRandom),
   ("randomseed", .mathRandomSeed), ("sin", .mathSin), ("sqrt", .mathSqrt),
   ("tan", .mathTan), ("tointeger", .mathToInteger), ("type", .mathType), ("ult", .mathUlt)]

def utf8 : List (String × Native) :=
  [("char", .utfChar), ("codepoint", .utfCodepoint), ("codes", .utfCodes), ("len", .utfLen),
   ("offset", .utfOffset)]

def os : List (String × Native) :=
  [("clock", .osClock), ("date", .osDate), ("difftime", .osDifftime),
   ("execute", .osExecute), ("exit", .osExit), ("getenv", .osGetenv),
   ("remove", .osRemove), ("rename", .osRename), ("setlocale", .osSetlocale),
   ("time", .osTime), ("tmpname", .osTmpname)]

/-- The functions of `io`. -/
def files : List (String × Native) :=
  [("close", .ioClose), ("flush", .ioFlush), ("input", .ioInput), ("lines", .ioLines),
   ("open", .ioOpen), ("output", .ioOutput), ("popen", .ioPopen), ("read", .ioRead),
   ("tmpfile", .ioTmpfile), ("type", .ioType), ("write", .ioWrite)]

/-- The methods of files. -/
def fileMethods : List (String × Native) :=
  [("close", .fileClose), ("flush", .fileFlush), ("lines", .fileLines), ("read", .fileRead),
   ("seek", .fileSeek), ("setvbuf", .fileSetvbuf), ("write", .fileWrite)]

/-- What the metatable of files offers besides their methods. -/
def fileEvents : List (String × Native) :=
  [("__gc", .fileLeft), ("__close", .fileLeft), ("__tostring", .fileText)]

def package : List (String × Native) :=
  [("loadlib", .packageLoadlib), ("searchpath", .packageSearchpath)]

/-- The libraries by the names of their tables. -/
def libraries : List (String × List (String × Native)) :=
  [("coroutine", coroutine), ("io", files), ("math", math), ("os", os),
   ("package", package), ("string", string), ("table", table), ("utf8", utf8)]

end Catalog

namespace Native

/-- The name of a function among the loaded modules. -/
def qualifiedName? (f : Native) : Option String :=
  match Catalog.globals.find? (·.2 = f) with
  | some (name, _) => some name
  | none =>
    Catalog.libraries.findSome? fun (lib, fs) =>
      (fs.find? (·.2 = f)).map fun (name, _) => lib ++ "." ++ name

/-- A built-in function's work. -/
def call (f : Native) (caller : Caller) (captured args : List Value) : Body Reply :=
  match f with
  | .assert | .collectgarbage | .dofile | .error | .getmetatable | .ipairs | .ipairsStep
  | .load | .loadfile | .next | .pairs | .pcall | .rawequal | .rawget | .rawlen | .rawset
  | .select | .setmetatable | .tonumber | .tostring | .type | .warn | .xpcall =>
    Library.Basics.call f args
  | .coClose | .coCreate | .coIsYieldable | .coResume | .coRunning | .coStatus | .coWrap
  | .coYield | .coWrapped =>
    Library.Coroutines.call f caller captured args
  | .robotTime | .robotLog | .robotSleep | .print | .failureText => Library.Robot.call f args
  | .tabConcat | .tabInsert | .tabMove | .tabPack | .tabRemove | .tabSort | .tabUnpack =>
    Library.Tables.call f args
  | .mathAbs | .mathAcos | .mathAsin | .mathAtan | .mathCeil | .mathCos | .mathDeg | .mathExp
  | .mathFloor | .mathFmod | .mathLog | .mathMax | .mathMin | .mathModf | .mathRad
  | .mathRandom | .mathRandomSeed | .mathSin | .mathSqrt | .mathTan | .mathToInteger
  | .mathType | .mathUlt =>
    Library.Math.call f args
  | .utfChar | .utfCodepoint | .utfCodes | .utfCodesStep | .utfLen | .utfOffset =>
    Library.Unicode.call f captured args
  | .osClock | .osDate | .osDifftime | .osExecute | .osExit | .osGetenv | .osRemove
  | .osRename | .osSetlocale | .osTime | .osTmpname =>
    Library.System.call f args
  | .ioClose | .ioFlush | .ioInput | .ioLines | .ioOpen | .ioOutput | .ioPopen | .ioRead
  | .ioTmpfile | .ioType | .ioWrite
  | .fileClose | .fileFlush | .fileLines | .fileRead | .fileSeek | .fileSetvbuf | .fileWrite
  | .fileLeft | .fileText | .fileStep =>
    Library.Streams.call f captured args
  | .require | .packageLoadlib | .packageSearchpath | .searchPreload | .searchPath
  | .searchNative =>
    Library.Packages.call f captured args
  | .strPack | .strPackSize | .strUnpack => Library.Packing.call f args
  | f => Library.Strings.call f captured args

end Native

end RobotSession.Lua
