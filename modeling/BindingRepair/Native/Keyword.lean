import BindingRepair.Native.Token
import Std.Data.HashMap

namespace BindingRepair.Native

namespace Keyword

def standard : List String :=
  ["auto", "break", "case", "char", "const", "continue", "default", "do", "double", "else", "enum",
    "extern", "float", "for", "goto", "if", "inline", "int", "long", "register", "restrict",
    "return", "short", "signed", "sizeof", "static", "struct", "switch", "typedef", "union",
    "unsigned", "void", "volatile", "while", "_Alignas", "_Alignof", "_Atomic", "_Bool",
    "_Complex", "_Generic", "_Imaginary", "_Noreturn", "_Static_assert", "_Thread_local",
    "__func__"]

def additional : List String :=
  ["_ExtInt", "_BitInt", "_Decimal32", "_Decimal64", "_Decimal128", "_Float16", "__fp16",
    "__bf16", "__float128", "__ibm128", "__int128", "_Nonnull", "_Nullable", "_Nullable_result",
    "_Null_unspecified", "__alignof", "__attribute", "__auto_type", "__builtin_FILE",
    "__builtin_FILE_NAME", "__builtin_FUNCTION", "__builtin_LINE", "__builtin_COLUMN",
    "__builtin_available", "__builtin_bit_cast", "__builtin_choose_expr",
    "__builtin_convertvector", "__builtin_offsetof", "__builtin_types_compatible_p",
    "__builtin_va_arg", "__builtin_vectorelements", "__extension__", "__imag", "__real",
    "__label__", "__thread", "__FUNCTION__", "__PRETTY_FUNCTION__", "__objc_yes", "__objc_no",
    "__private_extern__", "__module_private__", "__arm_streaming", "__funcref", "__asm",
    "__typeof", "__cdecl", "__stdcall", "__fastcall", "__thiscall", "__vectorcall", "__regcall",
    "__pascal"]

def spellings : List (String × String) :=
  [("__alignof__", "__alignof"), ("__asm__", "__asm"), ("__attribute__", "__attribute"),
    ("__complex", "_Complex"), ("__complex__", "_Complex"), ("__const", "const"),
    ("__const__", "const"), ("__imag__", "__imag"), ("__inline", "inline"),
    ("__inline__", "inline"), ("__real__", "__real"), ("__restrict", "restrict"),
    ("__restrict__", "restrict"), ("__signed", "signed"), ("__signed__", "signed"),
    ("__typeof__", "__typeof"), ("__volatile", "volatile"), ("__volatile__", "volatile"),
    ("__thread", "_Thread_local"), ("_ExtInt", "_BitInt"),
    ("__FUNCTION__", "__func__"), ("__PRETTY_FUNCTION__", "__func__")]

def table : Std.HashMap String String :=
  .ofList ((standard ++ additional).map (fun word => (word, word)) ++ spellings)

def isKeyword (word : String) : Bool :=
  table.contains word

end Keyword

namespace Token

def isName (t : Token) : Bool :=
  t.isWord && !Keyword.isKeyword t.text

def keyword? (t : Token) : Option String :=
  if t.isWord then Keyword.table[t.text]? else none

def isKeyword (t : Token) (word : String) : Bool :=
  t.keyword? = some word

end Token

end BindingRepair.Native
