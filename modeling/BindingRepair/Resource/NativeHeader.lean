
namespace BindingRepair.Packaged

def nativeHeader : List String := [
  "#ifndef MEMFLOW_H",
  "#define MEMFLOW_H",
  "",
  "// Automatically generated by memflow-ffi (cbindgen); reduced to the",
  "// declarations documented in the C# bindings. Standard includes are",
  "// replaced by the typedefs the declarations use.",
  "",
  "typedef unsigned char uint8_t;",
  "typedef unsigned int uint32_t;",
  "typedef int int32_t;",
  "typedef unsigned long long uint64_t;",
  "typedef unsigned long uintptr_t;",
  "typedef _Bool bool;",
  "",
  "/**",
  " * Identifies the byte order of a architecture",
  " *",
  " * This enum is used when reading/writing to/from the memory of a target system.",
  " * The memory will be automatically converted to the endianess memflow is currently running on.",
  " *",
  " * See the [wikipedia article](https://en.wikipedia.org/wiki/Endianness) for more information on the subject.",
  " */",
  "enum Endianess \x7b",
  "    /**",
  "     * Little Endianess",
  "     */",
  "    Endianess_LittleEndian,",
  "    /**",
  "     * Big Endianess",
  "     */",
  "    Endianess_BigEndian,",
  "\x7d;",
  "",
  "/**",
  " * An enum representing the available verbosity levels of the logger.",
  " *",
  " * Typical usage includes: checking if a certain `Level` is enabled with",
  " * [`log_enabled!`](macro.log_enabled.html), specifying the `Level` of",
  " * [`log!`](macro.log.html), and comparing a `Level` directly to a",
  " * [`LevelFilter`](enum.LevelFilter.html).",
  " */",
  "enum Level \x7b",
  "    Level_Error = 1,",
  "    Level_Warn,",
  "    Level_Info,",
  "    Level_Debug,",
  "    Level_Trace,",
  "\x7d;",
  "",
  "/**",
  " * An enum representing the available verbosity level filters of the logger.",
  " *",
  " * A `LevelFilter` may be compared directly to a [`Level`]. Use this type",
  " * to get and set the maximum log level with [`max_level()`] and [`set_max_level`].",
  " */",
  "enum LevelFilter \x7b",
  "    LevelFilter_Off,",
  "    LevelFilter_Error,",
  "    LevelFilter_Warn,",
  "    LevelFilter_Info,",
  "    LevelFilter_Debug,",
  "    LevelFilter_Trace,",
  "\x7d;",
  "",
  "/**",
  " * The state of a process",
  " *",
  " * # Remarks",
  " *",
  " * In case the exit code isn't known ProcessState::Unknown is set.",
  " */",
  "enum ProcessState_Tag \x7b",
  "    ProcessState_Unknown,",
  "    ProcessState_Alive,",
  "    ProcessState_Dead,",
  "\x7d;",
  "",
  "/**",
  " * The core of the plugin system",
  " *",
  " * It scans system directories and collects valid memflow plugins. They can then be instantiated",
  " * easily. The reason the libraries are collected is to allow for reuse, and save performance",
  " */",
  "typedef struct Inventory Inventory;",
  "",
  "/**",
  " * This type represents a address on the target system.",
  " * It internally holds a `umem` value but can also be used",
  " * when working in 32-bit environments.",
  " */",
  "typedef uint64_t Address;",
  "",
  "/**",
  " * The identifier of a process.",
  " */",
  "typedef uint32_t Pid;",
  "",
  "/**",
  " * Exit code of a process",
  " */",
  "typedef int32_t ExitCode;",
  "",
  "/**",
  " * Wrapper around null-terminated C-style strings.",
  " *",
  " * Analog to Rust's `String`, [`ReprCString`] owns the underlying data.",
  " */",
  "typedef char *ReprCString;",
  "",
  "/**",
  " * This type represents a wrapper over a [address](address/index.html)",
  " * with additional information about the containing page in the physical memory domain.",
  " */",
  "typedef struct PhysicalAddress \x7b",
  "    Address address;",
  "    uint8_t page_type;",
  "    uint8_t page_size_log2;",
  "\x7d PhysicalAddress;",
  "",
  "typedef struct ProcessState \x7b",
  "    enum ProcessState_Tag tag;",
  "    union \x7b",
  "        struct \x7b",
  "            ExitCode dead;",
  "        \x7d;",
  "    \x7d;",
  "\x7d ProcessState;",
  "",
  "typedef struct ArchitectureIdent \x7b",
  "    uint32_t tag;",
  "    union \x7b",
  "        struct \x7b",
  "            uintptr_t unknown;",
  "        \x7d;",
  "        struct \x7b",
  "            uint8_t x86_0;",
  "            bool x86_1;",
  "        \x7d;",
  "    \x7d;",
  "\x7d ArchitectureIdent;",
  "",
  "/**",
  " * Process information structure",
  " *",
  " * This structure implements basic process information. Architectures are provided both of the",
  " * system, and of the process.",
  " */",
  "typedef struct ProcessInfo \x7b",
  "    /**",
  "     * The base address of this process.",
  "     */",
  "    Address address;",
  "    /**",
  "     * ID of this process.",
  "     */",
  "    Pid pid;",
  "    /**",
  "     * The current status of the process at the time when this process info was fetched.",
  "     */",
  "    ProcessState state;",
  "    /**",
  "     * Name of the process.",
  "     */",
  "    ReprCString name;",
  "    /**",
  "     * Path of the process binary",
  "     */",
  "    ReprCString path;",
  "    /**",
  "     * Command line the process was started with.",
  "     */",
  "    ReprCString command_line;",
  "    /**",
  "     * System architecture of the target system.",
  "     */",
  "    ArchitectureIdent sys_arch;",
  "    /**",
  "     * Process architecture",
  "     */",
  "    ArchitectureIdent proc_arch;",
  "\x7d ProcessInfo;",
  "",
  "/**",
  " * Initialize logging with selected logging level.",
  " */",
  "void log_init(enum LevelFilter level_filter);",
  "",
  "/**",
  " * Logs a error message via log::error!",
  " *",
  " * # Safety",
  " *",
  " * The provided string must be a valid null-terminated char array.",
  " */",
  "void log_error(const char *s);",
  "",
  "/**",
  " * Logs a warning message via log::warn!",
  " *",
  " * # Safety",
  " *",
  " * The provided string must be a valid null-terminated char array.",
  " */",
  "void log_warn(const char *s);",
  "",
  "/**",
  " * Logs a info message via log::info!",
  " *",
  " * # Safety",
  " *",
  " * The provided string must be a valid null-terminated char array.",
  " */",
  "void log_info(const char *s);",
  "",
  "/**",
  " * Logs a debug message via log::debug!",
  " *",
  " * # Safety",
  " *",
  " * The provided string must be a valid null-terminated char array.",
  " */",
  "void log_debug(const char *s);",
  "",
  "/**",
  " * Logs a trace message via log::trace!",
  " *",
  " * # Safety",
  " *",
  " * The provided string must be a valid null-terminated char array.",
  " */",
  "void log_trace(const char *s);",
  "",
  "/**",
  " * Logs an error code with custom log level.",
  " */",
  "void log_errorcode(enum Level level, int32_t error);",
  "",
  "/**",
  " * Logs an error with debug log level.",
  " */",
  "void log_debug_errorcode(int32_t error);",
  "",
  "/**",
  " * Sets new maximum log level.",
  " *",
  " * If `inventory` is supplied, the log level is also updated within all plugin instances. However,",
  " * if it is not supplied, plugins will not have their log levels updated, potentially leading to",
  " * lower performance, or less logging than expected.",
  " */",
  "void log_set_max_level(enum LevelFilter level_filter, const Inventory *inventory);",
  "",
  "/**",
  " * Helper to convert `Address` to a `PhysicalAddress`",
  " *",
  " * This will create a `PhysicalAddress` with `UNKNOWN` PageType.",
  " */",
  "PhysicalAddress addr_to_paddr(Address address);",
  "",
  "/**",
  " * Create a new connector inventory",
  " *",
  " * This function will try to find connectors using PATH environment variable",
  " *",
  " * Note that all functions go through each directories, and look for a `memflow` directory,",
  " * and search for libraries in those.",
  " *",
  " * # Safety",
  " *",
  " * Inventory is inherently unsafe, because it loads shared libraries which can not be",
  " * guaranteed to be safe.",
  " */",
  "Inventory *inventory_scan(void);",
  "",
  "/**",
  " * Create a new inventory with custom path string",
  " *",
  " * # Safety",
  " *",
  " * `path` must be a valid null terminated string",
  " */",
  "Inventory *inventory_scan_path(const char *path);",
  "",
  "/**",
  " * Add a directory to an existing inventory",
  " *",
  " * # Safety",
  " *",
  " * `dir` must be a valid null terminated string",
  " */",
  "int32_t inventory_add_dir(Inventory *inv, const char *dir);",
  "",
  "/**",
  " * Free a os plugin",
  " *",
  " * # Safety",
  " *",
  " * `os` must point to a valid `OsInstance` that was created using one of the provided",
  " * functions.",
  " */",
  "void inventory_free(Inventory *inv);",
  "",
  "#endif /* MEMFLOW_H */"]

end BindingRepair.Packaged
