
namespace BindingRepair.Build

def projectName : String := "Interop.csproj"

def defaultFramework : String := "net8.0"

def projectText (framework : String) : String :=
  let framework := if framework = "" then defaultFramework else framework
  "<Project Sdk=\"Microsoft.NET.Sdk\">\n" ++
  "  <PropertyGroup>\n" ++
  "    <TargetFramework>" ++ framework ++ "</TargetFramework>\n" ++
  "    <OutputType>Library</OutputType>\n" ++
  "    <AllowUnsafeBlocks>true</AllowUnsafeBlocks>\n" ++
  "    <LangVersion>latest</LangVersion>\n" ++
  "    <Nullable>disable</Nullable>\n" ++
  "    <ImplicitUsings>disable</ImplicitUsings>\n" ++
  "    <Optimize>true</Optimize>\n" ++
  "    <GenerateAssemblyInfo>false</GenerateAssemblyInfo>\n" ++
  "  </PropertyGroup>\n" ++
  "</Project>\n"

def arguments : List String :=
  ["build", projectName, "-nologo", "-consoleLoggerParameters:NoSummary"]

end BindingRepair.Build
