import BindingRepair.FileTree
import BindingRepair.Resource.NativeHeader

namespace BindingRepair.Packaged

def typeNameAttribute : List String := [
  "    /// <summary>Defines the type of a member as it was used in the native signature.</summary>",
  "    [AttributeUsage(AttributeTargets.Struct | AttributeTargets.Enum | AttributeTargets.Property | AttributeTargets.Field | AttributeTargets.Parameter | AttributeTargets.ReturnValue, AllowMultiple = false, Inherited = true)]",
  "    [Conditional(\"DEBUG\")]",
  "    internal sealed partial class NativeTypeNameAttribute : Attribute",
  "    \x7b",
  "        private readonly string _name;",
  "",
  "        /// <summary>Initializes a new instance of the <see cref=\"NativeTypeNameAttribute\" /> class.</summary>",
  "        /// <param name=\"name\">The name of the type that was used in the native signature.</param>",
  "        public NativeTypeNameAttribute(string name)",
  "        \x7b",
  "            _name = name;",
  "        \x7d",
  "",
  "        /// <summary>Gets the name of the type that was used in the native signature.</summary>",
  "        public string Name => _name;",
  "    \x7d"]

def inheritanceAttribute : List String := [
  "    /// <summary>Defines the base type of a struct as it was in the native signature.</summary>",
  "    [AttributeUsage(AttributeTargets.Struct, AllowMultiple = false, Inherited = true)]",
  "    [Conditional(\"DEBUG\")]",
  "    internal sealed partial class NativeInheritanceAttribute : Attribute",
  "    \x7b",
  "        private readonly string _name;",
  "",
  "        /// <summary>Initializes a new instance of the <see cref=\"NativeInheritanceAttribute\" /> class.</summary>",
  "        /// <param name=\"name\">The name of the base type that was inherited from in the native signature.</param>",
  "        public NativeInheritanceAttribute(string name)",
  "        \x7b",
  "            _name = name;",
  "        \x7d",
  "",
  "        /// <summary>Gets the name of the base type that was inherited from in the native signature.</summary>",
  "        public string Name => _name;",
  "    \x7d"]

def processInfo : List String := [
  "    [StructLayout(LayoutKind.Explicit, Size = 56)]",
  "    public unsafe partial struct ProcessInfo",
  "    \x7b",
  "        [FieldOffset(0)]",
  "        [NativeTypeName(\"Address\")]",
  "        public ulong address;",
  "",
  "        [FieldOffset(8)]",
  "        [NativeTypeName(\"Pid\")]",
  "        public uint pid;",
  "",
  "        [FieldOffset(12)]",
  "        [NativeTypeName(\"struct ProcessState\")]",
  "        public ProcessState state;",
  "",
  "        [FieldOffset(24)]",
  "        [NativeTypeName(\"ReprCString\")]",
  "        public sbyte* name;",
  "",
  "        [FieldOffset(32)]",
  "        [NativeTypeName(\"ReprCString\")]",
  "        public sbyte* path;",
  "",
  "        [FieldOffset(40)]",
  "        [NativeTypeName(\"ReprCString\")]",
  "        public sbyte* command_line;",
  "",
  "        [FieldOffset(48)]",
  "        [NativeTypeName(\"struct ArchitectureIdent\")]",
  "        public ArchitectureIdent sys_arch;",
  "",
  "        [FieldOffset(52)]",
  "        [NativeTypeName(\"struct ArchitectureIdent\")]",
  "        public ArchitectureIdent proc_arch;",
  "    \x7d"]

def resources : List (String × List String) :=
  [("NativeTypeNameAttribute.cx", typeNameAttribute),
    ("NativeInheritanceAttribute.cx", inheritanceAttribute),
    ("ProcessInfo.cx", processInfo),
    ("memflow.h", nativeHeader)]

def attributeDefinitions : List (List String) :=
  [typeNameAttribute, inheritanceAttribute]

def install (directory : PathName) (files : FileTree) : FileTree :=
  resources.foldl (fun files (name, lines) =>
    files.addText (directory.child name) (Text.joinLines lines ++ "\n")) files

end BindingRepair.Packaged
