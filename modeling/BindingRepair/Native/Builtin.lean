namespace BindingRepair.Native.Builtin

def words (lines : List String) : List String :=
  lines.flatMap (·.splitOn " ")

def withEndings (names endings : List String) : List String :=
  names.flatMap fun name => endings.map (name ++ ·)

def realFunctions : List String :=
  words [
    "__finite acos acosh asin asinh atan atan2 atanh cabs cacos cacosh carg casin casinh catan",
    "catanh cbrt ccos ccosh ceil cexp cimag clog conj copysign cos cosh cpow cproj creal csin",
    "csinh csqrt ctan ctanh erf erfc exp exp2 expm1 fabs fdim floor fma fmax fmin fmod frexp",
    "hypot ilogb ldexp lgamma llrint llround log log10 log1p log2 logb lrint lround modf nan",
    "nearbyint nextafter nexttoward pow remainder remquo rint round roundeven scalbln scalbn",
    "sin sinh sqrt tan tanh tgamma trunc"]

def threeFunctions : List String :=
  words [
    "cabs cacos cacosh carg casin casinh catan catanh ccos ccosh cexp cimag clog conj cpow",
    "cproj creal csin csinh csqrt ctan ctanh powi signbit"]

def fourFunctions : List String :=
  words [
    "acosh asinh atanh cbrt erf erfc expm1 fdim hypot ilogb lgamma llrint llround log1p logb",
    "lrint lround modf nearbyint nextafter nexttoward remainder remquo scalbln scalbn tgamma"]

def fiveFunctions : List String :=
  words [
    "acos asin atan atan2 ceil copysign cos cosh exp exp10 exp2 fabs floor fma fmax fmin fmod",
    "frexp huge_val inf ldexp log log10 log2 nan nans pow rint round roundeven sin sinh sqrt",
    "tan tanh trunc"]

def singleFunctions : List String :=
  words [
    "COLUMN FILE FILE_NAME FUNCTION LINE __CFStringMakeConstantString",
    "__NSStringMakeConstantString __clear_cache __fprintf_chk __get_unsafe_stack_bottom",
    "__get_unsafe_stack_ptr __get_unsafe_stack_start __get_unsafe_stack_top __memccpy_chk",
    "__memcpy_chk __memmove_chk __mempcpy_chk __memset_chk __printf_chk __snprintf_chk",
    "__sprintf_chk __stpcpy_chk __stpncpy_chk __strcat_chk __strcpy_chk __strlcat_chk",
    "__strlcpy_chk __strncat_chk __strncpy_chk __vfprintf_chk __vprintf_chk __vsnprintf_chk",
    "__vsprintf_chk abort abs add_overflow addc addcb addcl addcll addcs addressof align_down",
    "align_up alloca alloca_uninitialized alloca_with_align alloca_with_align_uninitialized",
    "annotation assume assume_aligned assume_separate_storage available bcmp bcopy bit_cast",
    "bitreverse16 bitreverse32 bitreverse64 bitreverse8 bswap16 bswap32 bswap64 bzero",
    "call_with_static_chain calloc canonicalize canonicalizef canonicalizef16 canonicalizel",
    "char_memchr choose_expr classify_type clrsb clrsbl clrsbll clz clzl clzll clzs complex",
    "constant_p convertvector cpu_init cpu_is cpu_supports ctz ctzl ctzll ctzs debugtrap",
    "dump_struct dwarf_cfa dwarf_sp_column dynamic_object_size eh_return eh_return_data_regno",
    "elementwise_abs elementwise_add_sat elementwise_bitreverse elementwise_canonicalize",
    "elementwise_ceil elementwise_copysign elementwise_cos elementwise_exp elementwise_exp2",
    "elementwise_floor elementwise_fma elementwise_log elementwise_log10 elementwise_log2",
    "elementwise_max elementwise_min elementwise_nearbyint elementwise_pow elementwise_rint",
    "elementwise_round elementwise_roundeven elementwise_sin elementwise_sqrt",
    "elementwise_sub_sat elementwise_trunc expect expect_with_probability extend_pointer",
    "extract_return_addr ffs ffsl ffsll flt_rounds fpclassify fprintf frame_address free",
    "frob_return_addr fscanf function_start index init_dwarf_reg_size_table is_aligned isfinite",
    "isfpclass isgreater isgreaterequal isinf isinf_sign isless islessequal islessgreater isnan",
    "isnormal issignaling issubnormal isunordered iszero labs launder llabs longjmp malloc",
    "matrix_column_major_load matrix_column_major_store matrix_transpose memchr memcmp memcpy",
    "memcpy_inline memmove mempcpy memset memset_inline ms_va_copy ms_va_end ms_va_start",
    "mul_overflow nondeterministic_value nontemporal_load nontemporal_store",
    "objc_memmove_collectable object_size offsetof omp_required_simd_align operator_delete",
    "operator_new os_log_format os_log_format_buffer_size parity parityl parityll popcount",
    "popcountl popcountll prefetch preserve_access_index printf readcyclecounter realloc",
    "reduce_add reduce_and reduce_max reduce_min reduce_mul reduce_or reduce_xor return_address",
    "rindex rotateleft16 rotateleft32 rotateleft64 rotateleft8 rotateright16 rotateright32",
    "rotateright64 rotateright8 sadd_overflow saddl_overflow saddll_overflow scanf",
    "set_flt_rounds setjmp shufflevector smul_overflow smull_overflow smulll_overflow snprintf",
    "sprintf sscanf ssub_overflow ssubl_overflow ssubll_overflow stdarg_start stpcpy stpncpy",
    "strcasecmp strcat strchr strcmp strcpy strcspn strdup strlen strncasecmp strncat strncmp",
    "strncpy strndup strpbrk strrchr strspn strstr sub_overflow subc subcb subcl subcll subcs",
    "thread_pointer trap types_compatible_p uadd_overflow uaddl_overflow uaddll_overflow",
    "umul_overflow umull_overflow umulll_overflow unpredictable unreachable unwind_init",
    "usub_overflow usubl_overflow usubll_overflow va_arg va_copy va_end va_start vectorelements",
    "vfprintf vfscanf vprintf vscanf vsnprintf vsprintf vsscanf wcschr wcscmp wcslen wcsncmp",
    "wmemchr wmemcmp wmemcpy wmemmove"]

def syncFunctions : List String :=
  words [
    "add_and_fetch and_and_fetch bool_compare_and_swap fetch_and_add fetch_and_and",
    "fetch_and_nand fetch_and_or fetch_and_sub fetch_and_xor lock_release lock_test_and_set",
    "nand_and_fetch or_and_fetch sub_and_fetch swap val_compare_and_swap xor_and_fetch"]

def atomicFunctions : List String :=
  words [
    "add_fetch always_lock_free and_fetch clear compare_exchange compare_exchange_n exchange",
    "exchange_n fetch_add fetch_and fetch_max fetch_min fetch_nand fetch_or fetch_sub fetch_xor",
    "is_lock_free load load_n max_fetch min_fetch nand_fetch or_fetch signal_fence store",
    "store_n sub_fetch test_and_set thread_fence xor_fetch"]

def scopedFunctions : List String :=
  words [
    "add_fetch and_fetch compare_exchange compare_exchange_n exchange exchange_n fetch_add",
    "fetch_and fetch_max fetch_min fetch_nand fetch_or fetch_sub fetch_xor load load_n",
    "max_fetch min_fetch nand_fetch or_fetch store store_n sub_fetch xor_fetch"]

def standardFunctions : List String :=
  words [
    "compare_exchange_strong compare_exchange_weak exchange fetch_add fetch_and fetch_max",
    "fetch_min fetch_nand fetch_or fetch_sub fetch_xor init is_lock_free load signal_fence",
    "store thread_fence"]

def otherFunctions : List String :=
  words [
    "_Block_object_assign _Block_object_dispose _Exit __arithmetic_fence __cospi __cospif",
    "__exp10 __exp10f __rdtsc __sigsetjmp __sinpi __sinpif __sync_fetch_and_max",
    "__sync_fetch_and_min __sync_fetch_and_umax __sync_fetch_and_umin __sync_synchronize",
    "__tanpi __tanpif __warn_memset_zero_len __xray_customevent __xray_typedevent _m_prefetch",
    "_mm_clflush _mm_getcsr _mm_lfence _mm_mfence _mm_pause _mm_prefetch _mm_setcsr _mm_sfence",
    "_setjmp abort abs aligned_alloc calloc exit fopen fprintf fread free fscanf fwrite",
    "getcontext isalnum isalpha isblank iscntrl isdigit isgraph islower isprint ispunct isspace",
    "isupper isxdigit labs llabs longjmp malloc memchr memcmp memcpy memmove memset printf",
    "realloc savectx scanf setjmp sigsetjmp snprintf sprintf sscanf strcat strchr strcmp strcpy",
    "strcspn strerror strlen strncat strncmp strncpy strpbrk strrchr strspn strstr strtod",
    "strtof strtok strtol strtold strtoll strtoul strtoull strxfrm tolower toupper va_copy",
    "va_end va_start vfork vfprintf vfscanf vprintf vscanf vsnprintf vsprintf vsscanf wcschr",
    "wcscmp wcslen wcsncmp wmemchr wmemcmp wmemcpy wmemmove"]

def names : List String :=
  (withEndings threeFunctions ["", "f", "l"] ++
    withEndings fourFunctions ["", "f", "l", "f128"] ++
    withEndings fiveFunctions ["", "f", "l", "f16", "f128"] ++ singleFunctions).map
      ("__builtin_" ++ ·) ++
    withEndings (syncFunctions.map ("__sync_" ++ ·)) ["", "_1", "_2", "_4", "_8", "_16"] ++
    atomicFunctions.map ("__atomic_" ++ ·) ++ scopedFunctions.map ("__scoped_atomic_" ++ ·) ++
    standardFunctions.map ("__c11_atomic_" ++ ·) ++
    withEndings realFunctions ["", "f", "l"] ++ otherFunctions

def isKnown (name : String) : Bool :=
  name.startsWith "__builtin_ia32_" || names.contains name

end BindingRepair.Native.Builtin
