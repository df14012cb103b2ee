import BindingRepair.Native.Expansion

namespace BindingRepair.Native.Predefined

def definitions : List (String × String) :=
  [("_LP64", "1"), ("__ATOMIC_ACQUIRE", "2"), ("__ATOMIC_ACQ_REL", "4"), ("__ATOMIC_CONSUME", "1"),
    ("__ATOMIC_RELAXED", "0"), ("__ATOMIC_RELEASE", "3"), ("__ATOMIC_SEQ_CST", "5"),
    ("__BIGGEST_ALIGNMENT__", "16"), ("__BITINT_MAXWIDTH__", "8388608"), ("__BOOL_WIDTH__", "8"),
    ("__BYTE_ORDER__", "__ORDER_LITTLE_ENDIAN__"), ("__CHAR16_TYPE__", "unsigned short"),
    ("__CHAR32_TYPE__", "unsigned int"), ("__CHAR_BIT__", "8"),
    ("__CLANG_ATOMIC_BOOL_LOCK_FREE", "2"), ("__CLANG_ATOMIC_CHAR16_T_LOCK_FREE", "2"),
    ("__CLANG_ATOMIC_CHAR32_T_LOCK_FREE", "2"), ("__CLANG_ATOMIC_CHAR_LOCK_FREE", "2"),
    ("__CLANG_ATOMIC_INT_LOCK_FREE", "2"), ("__CLANG_ATOMIC_LLONG_LOCK_FREE", "2"),
    ("__CLANG_ATOMIC_LONG_LOCK_FREE", "2"), ("__CLANG_ATOMIC_POINTER_LOCK_FREE", "2"),
    ("__CLANG_ATOMIC_SHORT_LOCK_FREE", "2"), ("__CLANG_ATOMIC_WCHAR_T_LOCK_FREE", "2"),
    ("__CONSTANT_CFSTRINGS__", "1"), ("__DBL_DECIMAL_DIG__", "17"),
    ("__DBL_DENORM_MIN__", "4.9406564584124654e-324"), ("__DBL_DIG__", "15"),
    ("__DBL_EPSILON__", "2.2204460492503131e-16"), ("__DBL_HAS_DENORM__", "1"),
    ("__DBL_HAS_INFINITY__", "1"), ("__DBL_HAS_QUIET_NAN__", "1"), ("__DBL_MANT_DIG__", "53"),
    ("__DBL_MAX_10_EXP__", "308"), ("__DBL_MAX_EXP__", "1024"),
    ("__DBL_MAX__", "1.7976931348623157e+308"), ("__DBL_MIN_10_EXP__", "(-307)"),
    ("__DBL_MIN_EXP__", "(-1021)"), ("__DBL_MIN__", "2.2250738585072014e-308"),
    ("__DECIMAL_DIG__", "__LDBL_DECIMAL_DIG__"), ("__ELF__", "1"), ("__FINITE_MATH_ONLY__", "0"),
    ("__FLOAT128__", "1"), ("__FLT16_DECIMAL_DIG__", "5"),
    ("__FLT16_DENORM_MIN__", "5.9604644775390625e-8F16"), ("__FLT16_DIG__", "3"),
    ("__FLT16_EPSILON__", "9.765625e-4F16"), ("__FLT16_HAS_DENORM__", "1"),
    ("__FLT16_HAS_INFINITY__", "1"), ("__FLT16_HAS_QUIET_NAN__", "1"), ("__FLT16_MANT_DIG__", "11"),
    ("__FLT16_MAX_10_EXP__", "4"), ("__FLT16_MAX_EXP__", "16"), ("__FLT16_MAX__", "6.5504e+4F16"),
    ("__FLT16_MIN_10_EXP__", "(-4)"), ("__FLT16_MIN_EXP__", "(-13)"),
    ("__FLT16_MIN__", "6.103515625e-5F16"), ("__FLT_DECIMAL_DIG__", "9"),
    ("__FLT_DENORM_MIN__", "1.40129846e-45F"), ("__FLT_DIG__", "6"),
    ("__FLT_EPSILON__", "1.19209290e-7F"), ("__FLT_HAS_DENORM__", "1"),
    ("__FLT_HAS_INFINITY__", "1"), ("__FLT_HAS_QUIET_NAN__", "1"), ("__FLT_MANT_DIG__", "24"),
    ("__FLT_MAX_10_EXP__", "38"), ("__FLT_MAX_EXP__", "128"), ("__FLT_MAX__", "3.40282347e+38F"),
    ("__FLT_MIN_10_EXP__", "(-37)"), ("__FLT_MIN_EXP__", "(-125)"),
    ("__FLT_MIN__", "1.17549435e-38F"), ("__FLT_RADIX__", "2"), ("__FPCLASS_NEGINF", "0x0004"),
    ("__FPCLASS_NEGNORMAL", "0x0008"), ("__FPCLASS_NEGSUBNORMAL", "0x0010"),
    ("__FPCLASS_NEGZERO", "0x0020"), ("__FPCLASS_POSINF", "0x0200"),
    ("__FPCLASS_POSNORMAL", "0x0100"), ("__FPCLASS_POSSUBNORMAL", "0x0080"),
    ("__FPCLASS_POSZERO", "0x0040"), ("__FPCLASS_QNAN", "0x0002"), ("__FPCLASS_SNAN", "0x0001"),
    ("__FXSR__", "1"), ("__GCC_ASM_FLAG_OUTPUTS__", "1"), ("__GCC_ATOMIC_BOOL_LOCK_FREE", "2"),
    ("__GCC_ATOMIC_CHAR16_T_LOCK_FREE", "2"), ("__GCC_ATOMIC_CHAR32_T_LOCK_FREE", "2"),
    ("__GCC_ATOMIC_CHAR_LOCK_FREE", "2"), ("__GCC_ATOMIC_INT_LOCK_FREE", "2"),
    ("__GCC_ATOMIC_LLONG_LOCK_FREE", "2"), ("__GCC_ATOMIC_LONG_LOCK_FREE", "2"),
    ("__GCC_ATOMIC_POINTER_LOCK_FREE", "2"), ("__GCC_ATOMIC_SHORT_LOCK_FREE", "2"),
    ("__GCC_ATOMIC_TEST_AND_SET_TRUEVAL", "1"), ("__GCC_ATOMIC_WCHAR_T_LOCK_FREE", "2"),
    ("__GCC_HAVE_DWARF2_CFI_ASM", "1"), ("__GCC_HAVE_SYNC_COMPARE_AND_SWAP_1", "1"),
    ("__GCC_HAVE_SYNC_COMPARE_AND_SWAP_2", "1"), ("__GCC_HAVE_SYNC_COMPARE_AND_SWAP_4", "1"),
    ("__GCC_HAVE_SYNC_COMPARE_AND_SWAP_8", "1"), ("__GNUC_MINOR__", "2"),
    ("__GNUC_PATCHLEVEL__", "1"), ("__GNUC_STDC_INLINE__", "1"), ("__GNUC__", "4"),
    ("__GXX_ABI_VERSION", "1002"), ("__INT16_C_SUFFIX__", ""), ("__INT16_FMTd__", "\"hd\""),
    ("__INT16_FMTi__", "\"hi\""), ("__INT16_MAX__", "32767"), ("__INT16_TYPE__", "short"),
    ("__INT32_C_SUFFIX__", ""), ("__INT32_FMTd__", "\"d\""), ("__INT32_FMTi__", "\"i\""),
    ("__INT32_MAX__", "2147483647"), ("__INT32_TYPE__", "int"), ("__INT64_C_SUFFIX__", "L"),
    ("__INT64_FMTd__", "\"ld\""), ("__INT64_FMTi__", "\"li\""),
    ("__INT64_MAX__", "9223372036854775807L"), ("__INT64_TYPE__", "long int"),
    ("__INT8_C_SUFFIX__", ""), ("__INT8_FMTd__", "\"hhd\""), ("__INT8_FMTi__", "\"hhi\""),
    ("__INT8_MAX__", "127"), ("__INT8_TYPE__", "signed char"), ("__INTMAX_C_SUFFIX__", "L"),
    ("__INTMAX_FMTd__", "\"ld\""), ("__INTMAX_FMTi__", "\"li\""),
    ("__INTMAX_MAX__", "9223372036854775807L"), ("__INTMAX_TYPE__", "long int"),
    ("__INTMAX_WIDTH__", "64"), ("__INTPTR_FMTd__", "\"ld\""), ("__INTPTR_FMTi__", "\"li\""),
    ("__INTPTR_MAX__", "9223372036854775807L"), ("__INTPTR_TYPE__", "long int"),
    ("__INTPTR_WIDTH__", "64"), ("__INT_FAST16_FMTd__", "\"hd\""),
    ("__INT_FAST16_FMTi__", "\"hi\""), ("__INT_FAST16_MAX__", "32767"),
    ("__INT_FAST16_TYPE__", "short"), ("__INT_FAST16_WIDTH__", "16"),
    ("__INT_FAST32_FMTd__", "\"d\""), ("__INT_FAST32_FMTi__", "\"i\""),
    ("__INT_FAST32_MAX__", "2147483647"), ("__INT_FAST32_TYPE__", "int"),
    ("__INT_FAST32_WIDTH__", "32"), ("__INT_FAST64_FMTd__", "\"ld\""),
    ("__INT_FAST64_FMTi__", "\"li\""), ("__INT_FAST64_MAX__", "9223372036854775807L"),
    ("__INT_FAST64_TYPE__", "long int"), ("__INT_FAST64_WIDTH__", "64"),
    ("__INT_FAST8_FMTd__", "\"hhd\""), ("__INT_FAST8_FMTi__", "\"hhi\""),
    ("__INT_FAST8_MAX__", "127"), ("__INT_FAST8_TYPE__", "signed char"),
    ("__INT_FAST8_WIDTH__", "8"), ("__INT_LEAST16_FMTd__", "\"hd\""),
    ("__INT_LEAST16_FMTi__", "\"hi\""), ("__INT_LEAST16_MAX__", "32767"),
    ("__INT_LEAST16_TYPE__", "short"), ("__INT_LEAST16_WIDTH__", "16"),
    ("__INT_LEAST32_FMTd__", "\"d\""), ("__INT_LEAST32_FMTi__", "\"i\""),
    ("__INT_LEAST32_MAX__", "2147483647"), ("__INT_LEAST32_TYPE__", "int"),
    ("__INT_LEAST32_WIDTH__", "32"), ("__INT_LEAST64_FMTd__", "\"ld\""),
    ("__INT_LEAST64_FMTi__", "\"li\""), ("__INT_LEAST64_MAX__", "9223372036854775807L"),
    ("__INT_LEAST64_TYPE__", "long int"), ("__INT_LEAST64_WIDTH__", "64"),
    ("__INT_LEAST8_FMTd__", "\"hhd\""), ("__INT_LEAST8_FMTi__", "\"hhi\""),
    ("__INT_LEAST8_MAX__", "127"), ("__INT_LEAST8_TYPE__", "signed char"),
    ("__INT_LEAST8_WIDTH__", "8"), ("__INT_MAX__", "2147483647"), ("__INT_WIDTH__", "32"),
    ("__LDBL_DECIMAL_DIG__", "21"), ("__LDBL_DENORM_MIN__", "3.64519953188247460253e-4951L"),
    ("__LDBL_DIG__", "18"), ("__LDBL_EPSILON__", "1.08420217248550443401e-19L"),
    ("__LDBL_HAS_DENORM__", "1"), ("__LDBL_HAS_INFINITY__", "1"), ("__LDBL_HAS_QUIET_NAN__", "1"),
    ("__LDBL_MANT_DIG__", "64"), ("__LDBL_MAX_10_EXP__", "4932"), ("__LDBL_MAX_EXP__", "16384"),
    ("__LDBL_MAX__", "1.18973149535723176502e+4932L"), ("__LDBL_MIN_10_EXP__", "(-4931)"),
    ("__LDBL_MIN_EXP__", "(-16381)"), ("__LDBL_MIN__", "3.36210314311209350626e-4932L"),
    ("__LITTLE_ENDIAN__", "1"), ("__LLONG_WIDTH__", "64"),
    ("__LONG_LONG_MAX__", "9223372036854775807LL"), ("__LONG_MAX__", "9223372036854775807L"),
    ("__LONG_WIDTH__", "64"), ("__LP64__", "1"), ("__MEMORY_SCOPE_DEVICE", "1"),
    ("__MEMORY_SCOPE_SINGLE", "4"), ("__MEMORY_SCOPE_SYSTEM", "0"), ("__MEMORY_SCOPE_WRKGRP", "2"),
    ("__MEMORY_SCOPE_WVFRNT", "3"), ("__MMX__", "1"), ("__NO_INLINE__", "1"),
    ("__NO_MATH_INLINES", "1"), ("__OBJC_BOOL_IS_BOOL", "0"),
    ("__OPENCL_MEMORY_SCOPE_ALL_SVM_DEVICES", "3"), ("__OPENCL_MEMORY_SCOPE_DEVICE", "2"),
    ("__OPENCL_MEMORY_SCOPE_SUB_GROUP", "4"), ("__OPENCL_MEMORY_SCOPE_WORK_GROUP", "1"),
    ("__OPENCL_MEMORY_SCOPE_WORK_ITEM", "0"), ("__ORDER_BIG_ENDIAN__", "4321"),
    ("__ORDER_LITTLE_ENDIAN__", "1234"), ("__ORDER_PDP_ENDIAN__", "3412"), ("__PIC__", "2"),
    ("__PIE__", "2"), ("__POINTER_WIDTH__", "64"), ("__PRAGMA_REDEFINE_EXTNAME", "1"),
    ("__PTRDIFF_FMTd__", "\"ld\""), ("__PTRDIFF_FMTi__", "\"li\""),
    ("__PTRDIFF_MAX__", "9223372036854775807L"), ("__PTRDIFF_TYPE__", "long int"),
    ("__PTRDIFF_WIDTH__", "64"), ("__REGISTER_PREFIX__", ""), ("__SCHAR_MAX__", "127"),
    ("__SEG_FS", "1"), ("__SEG_GS", "1"), ("__SHRT_MAX__", "32767"), ("__SHRT_WIDTH__", "16"),
    ("__SIG_ATOMIC_MAX__", "2147483647"), ("__SIG_ATOMIC_WIDTH__", "32"),
    ("__SIZEOF_DOUBLE__", "8"), ("__SIZEOF_FLOAT128__", "16"), ("__SIZEOF_FLOAT__", "4"),
    ("__SIZEOF_INT128__", "16"), ("__SIZEOF_INT__", "4"), ("__SIZEOF_LONG_DOUBLE__", "16"),
    ("__SIZEOF_LONG_LONG__", "8"), ("__SIZEOF_LONG__", "8"), ("__SIZEOF_POINTER__", "8"),
    ("__SIZEOF_PTRDIFF_T__", "8"), ("__SIZEOF_SHORT__", "2"), ("__SIZEOF_SIZE_T__", "8"),
    ("__SIZEOF_WCHAR_T__", "4"), ("__SIZEOF_WINT_T__", "4"), ("__SIZE_FMTX__", "\"lX\""),
    ("__SIZE_FMTo__", "\"lo\""), ("__SIZE_FMTu__", "\"lu\""), ("__SIZE_FMTx__", "\"lx\""),
    ("__SIZE_MAX__", "18446744073709551615UL"), ("__SIZE_TYPE__", "long unsigned int"),
    ("__SIZE_WIDTH__", "64"), ("__SSE2_MATH__", "1"), ("__SSE2__", "1"), ("__SSE_MATH__", "1"),
    ("__SSE__", "1"), ("__STDC_HOSTED__", "1"), ("__STDC_UTF_16__", "1"), ("__STDC_UTF_32__", "1"),
    ("__STDC_VERSION__", "201112L"), ("__STDC__", "1"), ("__STRICT_ANSI__", "1"),
    ("__UINT16_C_SUFFIX__", ""), ("__UINT16_FMTX__", "\"hX\""), ("__UINT16_FMTo__", "\"ho\""),
    ("__UINT16_FMTu__", "\"hu\""), ("__UINT16_FMTx__", "\"hx\""), ("__UINT16_MAX__", "65535"),
    ("__UINT16_TYPE__", "unsigned short"), ("__UINT32_C_SUFFIX__", "U"),
    ("__UINT32_FMTX__", "\"X\""), ("__UINT32_FMTo__", "\"o\""), ("__UINT32_FMTu__", "\"u\""),
    ("__UINT32_FMTx__", "\"x\""), ("__UINT32_MAX__", "4294967295U"),
    ("__UINT32_TYPE__", "unsigned int"), ("__UINT64_C_SUFFIX__", "UL"),
    ("__UINT64_FMTX__", "\"lX\""), ("__UINT64_FMTo__", "\"lo\""), ("__UINT64_FMTu__", "\"lu\""),
    ("__UINT64_FMTx__", "\"lx\""), ("__UINT64_MAX__", "18446744073709551615UL"),
    ("__UINT64_TYPE__", "long unsigned int"), ("__UINT8_C_SUFFIX__", ""),
    ("__UINT8_FMTX__", "\"hhX\""), ("__UINT8_FMTo__", "\"hho\""), ("__UINT8_FMTu__", "\"hhu\""),
    ("__UINT8_FMTx__", "\"hhx\""), ("__UINT8_MAX__", "255"), ("__UINT8_TYPE__", "unsigned char"),
    ("__UINTMAX_C_SUFFIX__", "UL"), ("__UINTMAX_FMTX__", "\"lX\""), ("__UINTMAX_FMTo__", "\"lo\""),
    ("__UINTMAX_FMTu__", "\"lu\""), ("__UINTMAX_FMTx__", "\"lx\""),
    ("__UINTMAX_MAX__", "18446744073709551615UL"), ("__UINTMAX_TYPE__", "long unsigned int"),
    ("__UINTMAX_WIDTH__", "64"), ("__UINTPTR_FMTX__", "\"lX\""), ("__UINTPTR_FMTo__", "\"lo\""),
    ("__UINTPTR_FMTu__", "\"lu\""), ("__UINTPTR_FMTx__", "\"lx\""),
    ("__UINTPTR_MAX__", "18446744073709551615UL"), ("__UINTPTR_TYPE__", "long unsigned int"),
    ("__UINTPTR_WIDTH__", "64"), ("__UINT_FAST16_FMTX__", "\"hX\""),
    ("__UINT_FAST16_FMTo__", "\"ho\""), ("__UINT_FAST16_FMTu__", "\"hu\""),
    ("__UINT_FAST16_FMTx__", "\"hx\""), ("__UINT_FAST16_MAX__", "65535"),
    ("__UINT_FAST16_TYPE__", "unsigned short"), ("__UINT_FAST32_FMTX__", "\"X\""),
    ("__UINT_FAST32_FMTo__", "\"o\""), ("__UINT_FAST32_FMTu__", "\"u\""),
    ("__UINT_FAST32_FMTx__", "\"x\""), ("__UINT_FAST32_MAX__", "4294967295U"),
    ("__UINT_FAST32_TYPE__", "unsigned int"), ("__UINT_FAST64_FMTX__", "\"lX\""),
    ("__UINT_FAST64_FMTo__", "\"lo\""), ("__UINT_FAST64_FMTu__", "\"lu\""),
    ("__UINT_FAST64_FMTx__", "\"lx\""), ("__UINT_FAST64_MAX__", "18446744073709551615UL"),
    ("__UINT_FAST64_TYPE__", "long unsigned int"), ("__UINT_FAST8_FMTX__", "\"hhX\""),
    ("__UINT_FAST8_FMTo__", "\"hho\""), ("__UINT_FAST8_FMTu__", "\"hhu\""),
    ("__UINT_FAST8_FMTx__", "\"hhx\""), ("__UINT_FAST8_MAX__", "255"),
    ("__UINT_FAST8_TYPE__", "unsigned char"), ("__UINT_LEAST16_FMTX__", "\"hX\""),
    ("__UINT_LEAST16_FMTo__", "\"ho\""), ("__UINT_LEAST16_FMTu__", "\"hu\""),
    ("__UINT_LEAST16_FMTx__", "\"hx\""), ("__UINT_LEAST16_MAX__", "65535"),
    ("__UINT_LEAST16_TYPE__", "unsigned short"), ("__UINT_LEAST32_FMTX__", "\"X\""),
    ("__UINT_LEAST32_FMTo__", "\"o\""), ("__UINT_LEAST32_FMTu__", "\"u\""),
    ("__UINT_LEAST32_FMTx__", "\"x\""), ("__UINT_LEAST32_MAX__", "4294967295U"),
    ("__UINT_LEAST32_TYPE__", "unsigned int"), ("__UINT_LEAST64_FMTX__", "\"lX\""),
    ("__UINT_LEAST64_FMTo__", "\"lo\""), ("__UINT_LEAST64_FMTu__", "\"lu\""),
    ("__UINT_LEAST64_FMTx__", "\"lx\""), ("__UINT_LEAST64_MAX__", "18446744073709551615UL"),
    ("__UINT_LEAST64_TYPE__", "long unsigned int"), ("__UINT_LEAST8_FMTX__", "\"hhX\""),
    ("__UINT_LEAST8_FMTo__", "\"hho\""), ("__UINT_LEAST8_FMTu__", "\"hhu\""),
    ("__UINT_LEAST8_FMTx__", "\"hhx\""), ("__UINT_LEAST8_MAX__", "255"),
    ("__UINT_LEAST8_TYPE__", "unsigned char"), ("__USER_LABEL_PREFIX__", ""),
    ("__VERSION__", "\"Clang 18.1.1\""), ("__WCHAR_MAX__", "2147483647"), ("__WCHAR_TYPE__", "int"),
    ("__WCHAR_WIDTH__", "32"), ("__WINT_MAX__", "4294967295U"), ("__WINT_TYPE__", "unsigned int"),
    ("__WINT_UNSIGNED__", "1"), ("__WINT_WIDTH__", "32"), ("__amd64", "1"), ("__amd64__", "1"),
    ("__clang__", "1"), ("__clang_literal_encoding__", "\"UTF-8\""), ("__clang_major__", "18"),
    ("__clang_minor__", "1"), ("__clang_patchlevel__", "1"), ("__clang_version__", "\"18.1.1\""),
    ("__clang_wide_literal_encoding__", "\"UTF-32\""), ("__code_model_small__", "1"),
    ("__gnu_linux__", "1"), ("__k8", "1"), ("__k8__", "1"), ("__linux", "1"), ("__linux__", "1"),
    ("__llvm__", "1"), ("__pic__", "2"), ("__pie__", "2"),
    ("__seg_fs", "__attribute__((address_space(257)))"),
    ("__seg_gs", "__attribute__((address_space(256)))"), ("__tune_k8__", "1"), ("__unix", "1"),
    ("__unix__", "1"), ("__x86_64", "1"), ("__x86_64__", "1")]

def ofText (text : String) : Macro where
  body := (Line.ofText 0 text.toList).flatMap fun line =>
    line.tokens.map fun t => { t with written := none }

def macros : MacroTable :=
  .ofList (definitions.map fun (name, text) => (name, ofText text))

end BindingRepair.Native.Predefined
