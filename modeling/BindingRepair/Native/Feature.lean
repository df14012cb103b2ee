import BindingRepair.Native.Builtin

namespace BindingRepair.Native.Feature

open Builtin (words)

def features : List String :=
  words [
    "assume_nonnull attribute_analyzer_noreturn attribute_availability",
    "attribute_availability_with_message attribute_availability_app_extension",
    "attribute_availability_with_version_underscores attribute_availability_tvos",
    "attribute_availability_watchos attribute_availability_with_strict",
    "attribute_availability_with_replacement attribute_availability_in_templates",
    "attribute_availability_swift attribute_cf_returns_not_retained",
    "attribute_cf_returns_retained attribute_cf_returns_on_parameters",
    "attribute_deprecated_with_message attribute_deprecated_with_replacement",
    "attribute_ext_vector_type attribute_ns_returns_not_retained attribute_ns_returns_retained",
    "attribute_ns_consumes_self attribute_ns_consumed attribute_cf_consumed",
    "attribute_objc_ivar_unused attribute_objc_method_family attribute_overloadable",
    "attribute_unavailable_with_message attribute_unused_on_fields attribute_diagnose_if_objc",
    "c_thread_safety_attributes enumerator_attributes nullability nullability_on_arrays",
    "nullability_on_classes nullability_nullable_result tls c_alignas c_alignof c_atomic",
    "c_generic_selections c_static_assert c_thread_local objc_protocol_qualifier_mangling"]

def extensions : List String :=
  words [
    "matrix_types_scalar_division c_generic_selection_with_controlling_type c_fixed_enum",
    "swiftcc swiftasynccc gnu_asm gnu_asm_goto_with_outputs",
    "statement_attributes_with_gnu_syntax pragma_clang_attribute_namespaces",
    "pragma_clang_attribute_external_declaration overloadable_unmarked cxx_binary_literals"]

def attributes : List String :=
  words [
    "NSObject aarch64_sve_pcs aarch64_vector_pcs abi_tag acquire_capability acquire_handle",
    "acquire_shared_capability acquired_after acquired_before address_space alias align_value",
    "aligned alloc_align alloc_size always_destroy always_inline amdgpu_flat_work_group_size",
    "amdgpu_kernel amdgpu_max_num_work_groups amdgpu_num_sgpr amdgpu_num_vgpr",
    "amdgpu_waves_per_eu analyzer_noreturn annotate argument_with_type_tag arm_sve_vector_bits",
    "artificial assert_capability assert_exclusive_lock assert_shared_capability",
    "assert_shared_lock assume assume_aligned availability",
    "available_only_in_default_eval_method blocks bounded btf_decl_tag btf_type_tag",
    "callable_when callback called_once capability carries_dependency cdecl cf_audited_transfer",
    "cf_consumed cf_returns_not_retained cf_returns_retained cf_unknown_transfer",
    "cfi_canonical_jump_table clang_builtin_alias cleanup clspv_libclc_builtin code_align cold",
    "common const constant constructor consumable consumable_auto_cast_state",
    "consumable_set_state_on_read convergent coro_disable_lifetimebound coro_lifetimebound",
    "coro_only_destroy_when_complete coro_return_type coro_wrapper cpu_dispatch cpu_specific",
    "cudart_builtin deprecated destructor device device_builtin device_builtin_surface_type",
    "device_builtin_texture_type diagnose_as_builtin diagnose_if",
    "disable_sanitizer_instrumentation disable_tail_calls enable_if enforce_read_only_placement",
    "enforce_tcb enforce_tcb_leaf enum_extensibility error exclude_from_explicit_instantiation",
    "exclusive_lock_function exclusive_locks_required exclusive_trylock_function",
    "ext_vector_type external_source_symbol fallthrough fastcall flag_enum flatten",
    "force_align_arg_pointer format format_arg function_return global gnu_inline grid_constant",
    "guarded_by guarded_var host hot ibaction iboutlet iboutletcollection ifunc init_priority",
    "intel_ocl_bicc intel_reqd_sub_group_size internal_linkage interrupt launch_bounds leaf",
    "lifetimebound loader_uninitialized lock_returned locks_excluded lto_visibility_public",
    "m68k_rtd malloc managed matrix_type may_alias maybe_undef mig_server_routine",
    "min_vector_width minsize mode ms_abi ms_struct musttail naked neon_polyvector_type",
    "neon_vector_type no_address_safety_analysis no_builtin no_caller_saved_registers",
    "no_destroy no_instrument_function no_profile_instrument_function no_randomize_layout",
    "no_sanitize no_sanitize_address no_sanitize_memory no_sanitize_thread",
    "no_speculative_load_hardening no_split_stack no_stack_protector no_thread_safety_analysis",
    "nocf_check nocommon nodebug noderef noduplicate noescape noinline nomerge nonnull noreturn",
    "nosvm not_tail_called nothrow nouwtable ns_consumed ns_consumes_self ns_error_domain",
    "ns_returns_autoreleased ns_returns_not_retained ns_returns_retained nv_weak nvptx_kernel",
    "objc_arc_weak_reference_unavailable objc_boxable objc_bridge objc_bridge_mutable",
    "objc_bridge_related objc_class_stub objc_designated_initializer objc_direct",
    "objc_direct_members objc_exception objc_externally_retained objc_gc objc_independent_class",
    "objc_method_family objc_non_runtime_protocol objc_nonlazy_class objc_ownership",
    "objc_precise_lifetime objc_protocol_requires_explicit_implementation",
    "objc_requires_property_definitions objc_requires_super objc_returns_inner_pointer",
    "objc_root_class objc_runtime_name objc_runtime_visible objc_subclassing_restricted",
    "opencl_constant opencl_generic opencl_global opencl_global_device opencl_global_host",
    "opencl_local opencl_private opencl_unroll_hint optnone os_consumed os_consumes_this",
    "os_returns_not_retained os_returns_retained os_returns_retained_on_non_zero",
    "os_returns_retained_on_zero overloadable ownership_holds ownership_returns ownership_takes",
    "packed param_typestate pascal pass_dynamic_object_size pass_object_size",
    "patchable_function_entry pcs pointer_with_type_tag preferred_name preferred_type",
    "preserve_all preserve_most pt_guarded_by pt_guarded_var pure randomize_layout regcall",
    "regparm reinitializes release_capability release_generic_capability release_handle",
    "release_shared_capability reqd_work_group_size require_constant_initialization",
    "requires_capability requires_shared_capability retain return_typestate returns_nonnull",
    "returns_twice riscv_rvv_vector_bits scoped_lockable section selectany sentinel",
    "set_typestate shared shared_capability shared_lock_function shared_locks_required",
    "shared_trylock_function speculative_load_hardening standalone_debug stdcall suppress",
    "swift_async swift_async_context swift_async_error swift_async_name swift_attr swift_bridge",
    "swift_bridged_typedef swift_context swift_error swift_error_result swift_indirect_result",
    "swift_name swift_newtype swift_objc_members swift_private swift_wrapper swiftasynccall",
    "swiftcall sycl_kernel sysv_abi target target_clones test_typestate thiscall tls_model",
    "transparent_union trivial_abi try_acquire_capability try_acquire_shared_capability",
    "type_tag_for_datatype type_visibility unavailable uninitialized unlock_function",
    "unsafe_buffer_usage unused use_handle used using_if_exists vec_type_hint vecreturn",
    "vector_size vectorcall visibility warn_unused warn_unused_result warning weak weak_import",
    "weakref work_group_size_hint xray_always_instrument xray_log_args xray_never_instrument",
    "zero_call_used_regs"]

/-- The attributes that may also be written in double brackets, behind the name of one vendor. -/
def listedAttributes : List String :=
  words [
    "alias aligned alloc_align alloc_size always_inline artificial assume_aligned cdecl cleanup",
    "cold common const constructor deprecated destructor error fallthrough fastcall flatten",
    "force_align_arg_pointer format format_arg function_return gnu_inline hot ifunc interrupt",
    "leaf malloc may_alias mode ms_abi ms_struct naked no_address_safety_analysis",
    "no_caller_saved_registers no_instrument_function no_profile_instrument_function",
    "no_randomize_layout no_sanitize no_sanitize_address no_sanitize_thread no_split_stack",
    "no_stack_protector nocf_check nocommon nodebug noinline nonnull noreturn nothrow packed",
    "patchable_function_entry pcs pure randomize_layout regcall regparm retain returns_nonnull",
    "returns_twice section selectany sentinel stdcall sysv_abi target target_clones thiscall",
    "tls_model transparent_union unused used vector_size visibility warn_unused",
    "warn_unused_result warning weak weakref zero_call_used_regs"]

def standardAttributes : List (String × Nat) :=
  [("deprecated", 201904), ("fallthrough", 201904), ("maybe_unused", 201904),
    ("nodiscard", 202003), ("noreturn", 202202), ("_Noreturn", 202202)]

def targets : List (String × String) :=
  [("arch", "x86_64"), ("os", "linux"), ("vendor", "unknown"), ("environment", "gnu")]

def plainName (name : String) : String :=
  let text := name.toList
  if 4 ≤ text.length && text.take 2 = ['_', '_'] && text.reverse.take 2 = ['_', '_'] then
    String.ofList ((text.drop 2).dropLast.dropLast)
  else name

def ofBool (b : Bool) : Nat :=
  if b then 1 else 0

/-- The answer to a question on a name, which may stand behind the name of a scope. -/
def answer? (question : String) (scope : Option String) (name : String) : Option Nat :=
  let plain := plainName name
  match question, scope with
  | "__has_feature", none => some (ofBool (features.contains plain))
  | "__has_extension", none =>
    some (ofBool (features.contains plain || extensions.contains plain))
  | "__has_attribute", none => some (ofBool (attributes.contains plain))
  | "__has_builtin", none => some (ofBool (Builtin.isKnown name))
  | "__has_declspec_attribute", none => some 0
  | "__has_c_attribute", none => some ((standardAttributes.lookup plain).getD 0)
  | "__has_c_attribute", some scope =>
    let isListed := listedAttributes.contains plain
    match plainName scope with
    | "gnu" => some (ofBool isListed)
    | "clang" | "_Clang" => some (ofBool (attributes.contains plain && !isListed))
    | _ => some 0
  | "__building_module", none => some 0
  | question, none =>
    if question.startsWith "__is_target_" then
      some (ofBool (targets.contains ((question.drop 12).copy, name)))
    else none
  | _, _ => none

def questions : List String :=
  ["__has_feature", "__has_extension", "__has_attribute", "__has_builtin",
    "__has_declspec_attribute", "__has_c_attribute", "__building_module", "__is_target_arch",
    "__is_target_os", "__is_target_vendor", "__is_target_environment",
    "__is_target_variant_os", "__is_target_variant_environment"]

end BindingRepair.Native.Feature
