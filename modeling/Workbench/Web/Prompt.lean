import Workbench.Llm.Manager

/-!
# Prompts about pages

The templates by which models are asked for scenarios, page objects and fixtures for a page, and for the parts of a
suite of tests.
-/

namespace Workbench.Web

open Text Llm

def scenarioPrompt : PromptTemplate where
  name := "gherkin_generation"
  places := ["page_url", "page_title", "elements_description"]
  text := margin r"

 You are an expert QA engineer. Based on the following web page elements, generate comprehensive Gherkin test scenarios.

 Page URL: {page_url}
 Page Title: {page_title}

 Elements found:
 {elements_description}

 Requirements:
 1. Generate realistic user scenarios using Given-When-Then format
 2. Cover positive and negative test cases
 3. Include accessibility and usability tests
 4. Focus on user workflows and business logic
 5. Use descriptive scenario names
 6. Include data-driven test examples where appropriate

 Generate 5-10 comprehensive test scenarios in Gherkin format.
 "

def pageObjectPrompt : PromptTemplate where
  name := "pom_generation"
  places := ["page_url", "page_title", "language", "framework", "elements_with_locators"]
  text := margin r"

 You are a test automation expert. Generate a Page Object Model class for the following web page.

 Page URL: {page_url}
 Page Title: {page_title}
 Programming Language: {language}
 Framework: {framework}

 Elements with locators:
 {elements_with_locators}

 Requirements:
 1. Create a clean, maintainable Page Object Model class
 2. Use robust locator strategies (prefer data-testid, then CSS, then XPath)
 3. Include page validation methods
 4. Add action methods for all interactive elements
 5. Include proper error handling and waits
 6. Follow {framework} best practices
 7. Add comprehensive docstrings

 Generate the complete Page Object Model class.
 "

def fixturePrompt : PromptTemplate where
  name := "fixtures_generation"
  places := ["page_url", "framework", "scenarios"]
  text := margin r"

 You are a test automation expert. Generate test fixtures and test data for the following test scenarios.

 Page URL: {page_url}
 Test Framework: {framework}
 Scenarios: {scenarios}

 Requirements:
 1. Generate realistic test data for all scenarios
 2. Include both valid and invalid data sets
 3. Create reusable fixtures
 4. Include setup and teardown methods
 5. Handle different user roles and permissions
 6. Generate configuration data
 7. Include test data management utilities

 Generate comprehensive test fixtures and data.
 "

def pagePrompts : List PromptTemplate := [scenarioPrompt, pageObjectPrompt, fixturePrompt]

/-! ## Suites of tests -/

def suiteScenarioPrompt : PromptTemplate where
  name := "gherkin_generation"
  places := ["page_url", "page_title", "page_type", "elements_summary", "page_structure", "test_types"]
  text := margin r"

 You are an expert QA engineer specializing in behavior-driven development (BDD). 
 Generate comprehensive Gherkin test scenarios for a web application.

 ## Context
 Page URL: {page_url}
 Page Title: {page_title}
 Page Type: {page_type}

 ## Page Elements
 {elements_summary}

 ## Page Structure
 {page_structure}

 ## Requirements
 1. Generate realistic user scenarios using Given-When-Then format
 2. Cover both positive and negative test cases
 3. Include edge cases and error scenarios
 4. Focus on user workflows and business logic
 5. Use descriptive scenario names and clear step definitions
 6. Include accessibility testing scenarios
 7. Consider mobile and responsive behavior
 8. Add data-driven test examples where appropriate
 9. Include performance considerations where relevant
 10. Follow BDD best practices

 ## Test Types to Include
 {test_types}

 ## Output Format
 Generate 8-15 comprehensive Gherkin scenarios with:
 - Feature description
 - Background steps (if applicable)
 - Multiple scenarios covering different user paths
 - Examples tables for data-driven tests
 - Tags for test organization

 Generate professional, realistic test scenarios that a QA team would actually use.
 "

def suitePageObjectPrompt : PromptTemplate where
  name := "pom_generation"
  places := ["page_url", "page_title", "page_type", "elements_with_locators", "page_structure", "framework", "language", "naming_convention"]
  text := margin r"

 You are a test automation expert. Generate a comprehensive Page Object Model (POM) class 
 for the following web page using {framework} and {language}.

 ## Page Information
 URL: {page_url}
 Title: {page_title}
 Page Type: {page_type}

 ## Elements with Locators
 {elements_with_locators}

 ## Page Structure Analysis
 {page_structure}

 ## Framework Requirements
 Framework: {framework}
 Language: {language}
 Naming Convention: {naming_convention}

 ## POM Requirements
 1. Create a clean, maintainable Page Object Model class
 2. Use the most reliable locator strategies (prefer data-testid, then ID, then CSS)
 3. Include comprehensive page validation methods
 4. Add action methods for all interactive elements
 5. Include proper error handling and explicit waits
 6. Follow {framework} and {language} best practices
 7. Add comprehensive docstrings and comments
 8. Include method chaining where appropriate
 9. Add logging for debugging
 10. Handle dynamic elements and loading states
 11. Include mobile-specific methods if applicable
 12. Add screenshot capabilities for debugging

 ## Class Structure
 - Constructor/initialization with page/driver
 - Element locators as class properties
 - Page validation methods
 - Action methods for each interactive element
 - Navigation methods
 - Utility methods for common operations
 - Error handling and logging

 Generate a complete, production-ready Page Object Model class with comprehensive functionality.
 "

def testCodePrompt : PromptTemplate where
  name := "test_code_generation"
  places := ["framework", "language", "test_type", "naming_convention", "gherkin_scenarios", "page_object_classes", "test_data"]
  text := margin r"

 You are a senior test automation engineer. Generate comprehensive test code based on the 
 following Gherkin scenarios using {framework} and {language}.

 ## Test Configuration
 Framework: {framework}
 Language: {language}
 Test Type: {test_type}
 Naming Convention: {naming_convention}

 ## Gherkin Scenarios
 {gherkin_scenarios}

 ## Page Object Model Classes
 {page_object_classes}

 ## Test Data
 {test_data}

 ## Requirements
 1. Generate executable test code that implements the Gherkin scenarios
 2. Use the provided Page Object Model classes
 3. Include proper test setup and teardown
 4. Add comprehensive assertions and validations
 5. Implement proper error handling and reporting
 6. Include parallel execution capabilities
 7. Add logging and debugging information
 8. Follow {framework} best practices and patterns
 9. Include test data management
 10. Add retry logic for flaky tests
 11. Include accessibility testing where specified
 12. Add performance assertions where relevant

 ## Code Structure
 - Test class with proper inheritance/structure
 - Setup and teardown methods
 - Test methods for each scenario
 - Helper methods for common operations
 - Test data management
 - Configuration and utilities

 Generate production-ready test code with comprehensive coverage and error handling.
 "

def suiteFixturePrompt : PromptTemplate where
  name := "fixtures_generation"
  places := ["framework", "language", "test_data_format", "test_scenarios", "page_objects_info"]
  text := margin r"

 You are a test automation expert. Generate comprehensive test fixtures and test data 
 for the following test scenarios.

 ## Configuration
 Framework: {framework}
 Language: {language}
 Test Data Format: {test_data_format}

 ## Test Scenarios
 {test_scenarios}

 ## Page Objects
 {page_objects_info}

 ## Requirements
 1. Generate realistic test data for all scenarios
 2. Include both valid and invalid data sets
 3. Create reusable fixtures for common setup/teardown
 4. Include different user roles and permissions
 5. Generate configuration data and environment settings
 6. Include database setup/cleanup if needed
 7. Add API mock data if applicable
 8. Include test data for edge cases
 9. Generate data for performance testing
 10. Include accessibility test data
 11. Add internationalization test data
 12. Include responsive design test data

 ## Fixtures to Generate
 - User account fixtures (different roles)
 - Test data files ({test_data_format} format)
 - Database fixtures
 - API response fixtures
 - Configuration fixtures
 - Environment setup fixtures
 - Browser/device configuration fixtures

 Generate comprehensive, realistic test fixtures that support all testing scenarios.
 "

def strategyPrompt : PromptTemplate where
  name := "test_strategy"
  places := ["page_url", "page_type", "total_elements", "interactive_elements", "page_structure", "existing_tests"]
  text := margin r"

 You are a QA architect. Generate a comprehensive test strategy and recommendations 
 for the following web application.

 ## Application Analysis
 Page URL: {page_url}
 Page Type: {page_type}
 Total Elements: {total_elements}
 Interactive Elements: {interactive_elements}

 ## Page Structure
 {page_structure}

 ## Current Test Coverage
 {existing_tests}

 ## Requirements
 1. Analyze the application structure and complexity
 2. Recommend appropriate test types and coverage
 3. Suggest test automation strategy
 4. Identify risk areas and critical paths
 5. Recommend testing tools and frameworks
 6. Suggest test data management approach
 7. Recommend CI/CD integration strategy
 8. Identify accessibility testing requirements
 9. Suggest performance testing approach
 10. Recommend maintenance and scalability strategies

 ## Strategy Areas
 - Test pyramid recommendations
 - Risk-based testing approach
 - Tool selection rationale
 - Test environment requirements
 - Test data management strategy
 - CI/CD integration plan
 - Maintenance and scaling considerations
 - Training and skill requirements

 Generate a comprehensive test strategy document with actionable recommendations.
 "

def suitePrompts : List PromptTemplate :=
  [suiteScenarioPrompt, suitePageObjectPrompt, testCodePrompt, suiteFixturePrompt, strategyPrompt]

end Workbench.Web
